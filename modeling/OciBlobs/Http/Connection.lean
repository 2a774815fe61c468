/-
# `Http.Connection` — messages as octets on a connection

A connection serves one exchange: a request goes out, an answer comes back,
and the far side closes.  So an answer is read from everything that came,
and one that is shorter than it announced has broken off.
-/
import OciBlobs.Http.Message
import OciBlobs.Text.Natural
import OciBlobs.Text.Split

namespace OciBlobs.Http

def lineEnd : Bytes := [13, 10]

namespace Request

def hostText (request : Request) : List Char :=
  (request.url.host?.map (·.render)).getD []
    ++ match request.url.port? with
      | some port => ':' :: Nat.toDigits 10 port
      | none => []

/-- What is asked of the host: path and query. -/
def targetText (request : Request) : List Char :=
  request.url.path.render ++ Url.renderQuery request.url.query

/-- The headers that a connection adds: where the request goes, that nothing
follows it, and how long its body is. -/
def connectionHeaders (request : Request) : List Header :=
  [⟨"host", Utf8.encode request.hostText⟩, ⟨"accept", Bytes.ofAscii "*/*"⟩,
    ⟨"connection", Bytes.ofAscii "close"⟩]
  ++ match request.body, request.method with
    | none, .get | none, .head => []
    | body, _ =>
      let size := (body.map fun content => content.bytes.length).getD 0
      if size = 0 ∧ (request.method = .get ∨ request.method = .head) then []
      else [⟨"content-length", Bytes.ofAscii (toString size)⟩]

def octets (request : Request) : Bytes :=
  let first := Bytes.ofAscii (request.method.name ++ " ") ++ Utf8.encode request.targetText
    ++ Bytes.ofAscii " HTTP/1.1" ++ lineEnd
  let lines := (request.connectionHeaders ++ request.headers).flatMap fun header =>
    Bytes.ofAscii header.name ++ Bytes.ofAscii ": " ++ header.value ++ lineEnd
  first ++ lines ++ lineEnd ++ (request.body.map (·.bytes)).getD []

end Request

namespace Answer

/-- The first line of a text, and what follows it; none if no line ends. -/
def cutLine? : Bytes → Option (Bytes × Bytes)
  | [] => none
  | 10 :: rest => some ([], rest)
  | 13 :: 10 :: rest => some ([], rest)
  | b :: rest => (cutLine? rest).map fun cut => (b :: cut.1, cut.2)

theorem cutLine?_shorter {text line rest : Bytes} (h : cutLine? text = some (line, rest)) :
    rest.length < text.length := by
  fun_induction cutLine? text generalizing line with
  | case1 => cases h
  | case2 => cases h; exact Nat.lt_succ_self _
  | case3 =>
    cases h
    simp only [List.length_cons]
    omega
  | case4 b rest' _ _ ih =>
    cases hc : cutLine? rest' with
    | none => simp [hc] at h
    | some cut =>
      simp only [hc, Option.map_some, Option.some.injEq, Prod.mk.injEq] at h
      have := ih (show cutLine? rest' = some (cut.1, rest) by rw [hc, ← h.2])
      simp only [List.length_cons]
      omega

def cutHead? (text : Bytes) : Option (List Bytes × Bytes) :=
  match h : cutLine? text with
  | none => none
  | some ([], rest) => some ([], rest)
  | some (line, rest) =>
    have := cutLine?_shorter h
    (cutHead? rest).map fun cut => (line :: cut.1, cut.2)
termination_by text.length

def asciiOf (bytes : Bytes) : List Char :=
  bytes.map fun b => Char.ofNat b.toNat

/-- Octets without the blanks around them. -/
def trimmed (bytes : Bytes) : Bytes :=
  let isBlank (b : UInt8) : Bool := b == 32 || b == 9
  ((bytes.dropWhile isBlank).reverse.dropWhile isBlank).reverse

def statusOf? (line : Bytes) : Option Status :=
  match Text.cutAt ' ' (asciiOf line) with
  | version :: code :: _ =>
    if ['H', 'T', 'T', 'P', '/', '1', '.'].isPrefixOf version ∧ code.length = 3 then
      (Text.ofDigits? code).map (⟨·⟩)
    else none
  | _ => none

def headerOf? (line : Bytes) : Option Header :=
  match line.dropWhile (· != 58) with
  | [] => none
  | _ :: value =>
    Header.ofField? (String.ofList (asciiOf (line.takeWhile (· != 58)))) (trimmed value)

/-- The number that hexadecimal digits write, up to the first other character. -/
def sizeOf? (line : Bytes) : Option Nat :=
  let digits := ((asciiOf line).map Bytes.hexValue?).takeWhile Option.isSome
  if digits.isEmpty then none
  else some (digits.foldl (fun n digit => n * 16 + digit.getD 0) 0)

/-- A body in chunks, each behind its size; one of size zero is the end. -/
def chunksOf (text : Bytes) : List Piece :=
  match h : cutLine? text with
  | none => [{ data := none }]
  | some (line, rest) =>
    have := cutLine?_shorter h
    match sizeOf? line with
    | none => [{ data := none }]
    | some 0 => []
    | some size =>
      if rest.length < size then [{ data := some rest }, { data := none }]
      else
        { data := some (rest.take size) }
          :: chunksOf (((rest.drop size).dropWhile (· == 13)).drop 1)
termination_by text.length
decreasing_by
  have := (List.dropWhile_sublist (l := rest.drop size) (· == 13)).length_le
  simp only [List.length_drop] at *
  omega

def sizedBody (size : Nat) (text : Bytes) : List Piece :=
  [{ data := some (text.take size) }] ++ if text.length < size then [{ data := none }] else []

def announced? (headers : List Header) : Option Nat :=
  (Header.first? headers "content-length").bind fun value => Text.ofDigits? (asciiOf value)

def isChunked (headers : List Header) : Bool :=
  (Header.first? headers "transfer-encoding").any fun value =>
    (asciiOf value).map Char.toLower == ['c', 'h', 'u', 'n', 'k', 'e', 'd']

/-- The answer to a request in all that came back; `headOnly` says that no
body was asked for. -/
def ofOctets? (headOnly : Bool) (text : Bytes) : Option Answer :=
  match cutHead? text with
  | some (first :: lines, rest) => do
    let status ← statusOf? first
    if status.code / 100 = 1 ∧ rest.length < text.length then ofOctets? headOnly rest
    else
      let headers ← lines.mapM headerOf?
      let length := if isChunked headers then none else announced? headers
      some {
        status, headers, length
        body :=
          if headOnly ∨ status.code = 204 ∨ status.code = 304 then []
          else if isChunked headers then chunksOf rest
          else
            match length with
            | some size => sizedBody size rest
            | none => [{ data := some rest }] }
  | _ => none
termination_by text.length

end Answer

end OciBlobs.Http
