/-
# `Proofs.Json.Scalar` — strings and whole numbers are read back

A character of a string literal stands for itself, and then all its octets are
plain, or it is written as an escape, which is read as that character
(`escapeChar_cases`).  So a string is read back whatever its characters are
(`reads_literal`): the reader takes stretches of plain octets as long as it
can, and the escapes between them.

The digits of a whole number are appended one by one, and they all fit if the
number does.  It ends where its digits end, because nothing that may follow a
value goes on with a number (`EndsValue`).
-/
import OciBlobs.Json.Printer
import OciBlobs.Json.Reader.Structure
import OciBlobs.Proofs.Json.Reads
import OciBlobs.Proofs.Text.Digits

namespace OciBlobs.Json

open Reader

variable {c : Char} {rest : List Char}

theorem toNat_octet (h : c.toNat < 0x80) : (octet c).toNat = c.toNat :=
  Utf8.toNat_octet (by omega)

theorem octet_inj {d : Char} (hc : c.toNat < 0x80) (hd : d.toNat < 0x80)
    (h : octet c = octet d) : c = d := by
  have hnat : c.toNat = d.toNat := by rw [← toNat_octet hc, ← toNat_octet hd, h]
  rw [← Char.ofNat_toNat c, hnat, Char.ofNat_toNat]

/-! ## Escapes -/

theorem reads_nextInside (h : c.toNat < 0x80) (rest : List Char) :
    nextInside.Reads (c :: rest) (octet c) rest :=
  Reads.bind ((reads_peek_ascii h rest).bind (reads_pure (octet c) _))
    ((reads_drop h rest).bind (reads_pure _ _))

theorem hexQuad_control : ∀ n < 32,
    hexQuad? (octet '0') (octet '0') (octet (Bytes.hexDigit (n / 16)))
      (octet (Bytes.hexDigit (n % 16))) = some n := by
  decide

theorem ascii_hexDigit : ∀ n < 16, (Bytes.hexDigit n).toNat < 0x80 := by
  decide

theorem reads_escaped_control {n : Nat} (h : n < 32) (rest : List Char) :
    escaped.Reads ('u' :: '0' :: '0' :: Bytes.hexDigit (n / 16) :: Bytes.hexDigit (n % 16) :: rest)
      (Char.ofNat n) rest := by
  have hhigh := ascii_hexDigit (n / 16) (by omega)
  have hlow := ascii_hexDigit (n % 16) (by omega)
  have hquad : hexQuad.Reads
      ('0' :: '0' :: Bytes.hexDigit (n / 16) :: Bytes.hexDigit (n % 16) :: rest) n rest := by
    refine (reads_nextInside (by decide) _).bind <| (reads_nextInside (by decide) _).bind <|
      (reads_nextInside hhigh _).bind <| (reads_nextInside hlow _).bind ?_
    rw [hexQuad_control n h]
    exact reads_pure n rest
  have hpoint : escapedCodePoint.Reads
      ('0' :: '0' :: Bytes.hexDigit (n / 16) :: Bytes.hexDigit (n % 16) :: rest)
      (Char.ofNat n) rest := by
    -- no surrogate, neither a trailing nor a leading one
    have htrailing : ¬(0xDC00 ≤ n && n ≤ 0xDFFF) = true := by
      simp only [Bool.and_eq_true, decide_eq_true_eq]
      omega
    have hleading : ¬(0xD800 ≤ n && n ≤ 0xDBFF) = true := by
      simp only [Bool.and_eq_true, decide_eq_true_eq]
      omega
    exact hquad.bind (.ite_neg htrailing (.ite_neg hleading (reads_pure _ _)))
  exact (reads_nextInside (by decide) _).bind hpoint

theorem isPlain_iff {b : UInt8} :
    isPlain b = true ↔ b.toNat ≠ 0x22 ∧ b.toNat ≠ 0x5C ∧ 0x20 ≤ b.toNat := by
  simp [isPlain, octet, UInt8.le_iff_toNat_le, ← UInt8.toNat_inj, and_assoc]

theorem escape_of_letter {d letter : Char} (hc : c = d)
    (hread : ∀ rest, escaped.Reads (letter :: rest) d rest) :
    ∃ code, ['\\', letter] = '\\' :: code ∧ ∀ rest, escaped.Reads (code ++ rest) c rest :=
  ⟨[letter], rfl, fun rest => hc ▸ hread rest⟩

/-- A character is written as it is, or as an escape that is read as it. -/
theorem escapeChar_cases (c : Char) :
    (escapeChar c = [c] ∧ ∀ b ∈ Utf8.encodeChar c, isPlain b = true) ∨
      ∃ code, escapeChar c = '\\' :: code ∧ ∀ rest, escaped.Reads (code ++ rest) c rest := by
  have hchar {n : Nat} (h : c.toNat = n) : c = Char.ofNat n := by rw [← h, Char.ofNat_toNat]
  unfold escapeChar
  split
  case isTrue h =>
    exact .inr <| escape_of_letter h fun _ =>
      (reads_nextInside (by decide) _).bind (reads_pure '"' _)
  split
  case isTrue h =>
    exact .inr <| escape_of_letter h fun _ =>
      (reads_nextInside (by decide) _).bind (reads_pure '\\' _)
  split
  case isTrue h =>
    exact .inr <| escape_of_letter (hchar h) fun _ =>
      (reads_nextInside (by decide) _).bind (reads_pure (Char.ofNat 8) _)
  split
  case isTrue h =>
    exact .inr <| escape_of_letter (hchar h) fun _ =>
      (reads_nextInside (by decide) _).bind (reads_pure (Char.ofNat 9) _)
  split
  case isTrue h =>
    exact .inr <| escape_of_letter (hchar h) fun _ =>
      (reads_nextInside (by decide) _).bind (reads_pure (Char.ofNat 10) _)
  split
  case isTrue h =>
    exact .inr <| escape_of_letter (hchar h) fun _ =>
      (reads_nextInside (by decide) _).bind (reads_pure (Char.ofNat 12) _)
  split
  case isTrue h =>
    exact .inr <| escape_of_letter (hchar h) fun _ =>
      (reads_nextInside (by decide) _).bind (reads_pure (Char.ofNat 13) _)
  split
  case isTrue h =>
    refine .inr ⟨_, rfl, fun rest => ?_⟩
    have hcontrol := reads_escaped_control h rest
    rwa [Char.ofNat_toNat] at hcontrol
  case isFalse hquote hslash _ _ _ _ _ hgraphic =>
    have hquote : c.toNat ≠ 0x22 := fun h => hquote (hchar h)
    have hslash : c.toNat ≠ 0x5C := fun h => hslash (hchar h)
    refine .inl ⟨rfl, fun b hb => isPlain_iff.mpr ?_⟩
    rcases Utf8.encodeChar_octets hb with ⟨-, hsame⟩ | ⟨-, hhigh⟩ <;> omega

/-! ## Literals -/

namespace Reader

namespace Draft

theorem add_add (draft : Draft) (front back : Bytes) :
    (draft.add front).add back = draft.add (front ++ back) := by
  simp [add]

theorem push_eq (draft : Draft) (c : Char) : draft.push c = draft.add (Utf8.encodeChar c) :=
  rfl

theorem finish_encode (text : String) (place : Place) :
    (Draft.add {} (Utf8.encode text.toList)).finish place = .ok text := by
  have hoctets : (Draft.add {} (Utf8.encode text.toList)).before.reverse =
      Utf8.encode text.toList := by
    simp [add]
  simp only [finish, hoctets, Utf8.toString?, Utf8.decode_encode, Option.map_some,
    String.ofList_toList]

end Draft

/-- What is left of a literal is read; `run` stands before it as it is.  The
induction is on what is left, for the reader takes all of a plain stretch in
one turn. -/
theorem loops_literalTurn (text run : List Char)
    (hrun : ∀ b ∈ Utf8.encode run, isPlain b = true) (draft : Draft) (rest : List Char) :
    Loops literalTurn draft (run ++ (text.flatMap escapeChar ++ '"' :: rest))
      (draft.add (Utf8.encode (run ++ text))) rest := by
  induction text generalizing run draft with
  | nil =>
      rw [List.append_nil]
      exact .done <| (reads_span_before run hrun (by decide) rfl rest).bind <|
        (reads_drop (by decide) rest).bind (.ite_pos rfl (reads_pure _ _))
  | cons c text ih =>
      rw [List.flatMap_cons]
      rcases escapeChar_cases c with ⟨hsame, hplain⟩ | ⟨code, hcode, hread⟩
      · have hrun' : ∀ b ∈ Utf8.encode (run ++ [c]), isPlain b = true := by
          rw [Utf8.encode_append, List.forall_mem_append]
          refine ⟨hrun, fun b hb => hplain b ?_⟩
          simpa [Utf8.encode] using hb
        have hloop := ih (run ++ [c]) hrun' draft
        rw [List.append_assoc, List.append_assoc] at hloop
        rw [hsame]
        exact hloop
      · have hturn : (literalTurn draft).Reads
            ((run ++ '\\' :: code) ++ (text.flatMap escapeChar ++ '"' :: rest))
            (.again ((draft.add (Utf8.encode run)).push c))
            (text.flatMap escapeChar ++ '"' :: rest) := by
          rw [List.append_assoc]
          refine (reads_span_before run hrun (by decide) rfl _).bind <|
            (reads_drop (by decide) _).bind (.ite_neg (by decide) (.ite_pos rfl ?_))
          exact (hread _).bind (reads_pure _ _)
        have hnext := ih [] (List.forall_mem_nil _)
          ((draft.add (Utf8.encode run)).push c)
        have hloop := Loops.again (by simp) hturn hnext
        rw [Draft.push_eq, Draft.add_add, Draft.add_add, List.nil_append, List.append_assoc,
          ← Utf8.encode_cons, ← Utf8.encode_append] at hloop
        rw [hcode, List.append_assoc]
        exact hloop

/-- A string is read back, whatever its characters are. -/
theorem reads_literal (text : String) (rest : List Char) :
    literal.Reads (text.toList.flatMap escapeChar ++ '"' :: rest) text rest := by
  have hloop := loops_literalTurn text.toList [] (List.forall_mem_nil _) {} rest
  rw [List.nil_append, List.nil_append] at hloop
  refine hloop.reads.bind fun cursor hat => ⟨cursor, ?_, hat⟩
  exact Prod.ext (Draft.finish_encode text cursor.place) rfl

theorem quoted_append (text : String) (rest : List Char) :
    quoted text ++ rest = '"' :: (text.toList.flatMap escapeChar ++ '"' :: rest) := by
  simp [quoted]

theorem reads_key (text : String) (rest : List Char) :
    key.Reads (quoted text ++ rest) text rest := by
  rw [quoted_append]
  exact (reads_drop (by decide) _).bind (reads_literal text rest)

end Reader

/-! ## Whole numbers -/

/-- What may follow a value: what separates or closes, or nothing. -/
def EndsValue (rest : List Char) : Prop :=
  ∀ c ∈ rest.head?, c ∈ [',', '\x7d', ']']

/-- The octets that a look behind a value may find. -/
def endOctets : List (Option UInt8) :=
  [none, some (octet ','), some (octet '\x7d'), some (octet ']')]

theorem head_of_endsValue (h : EndsValue rest) : (Utf8.encode rest).head? ∈ endOctets := by
  cases rest with
  | nil => exact List.mem_cons_self
  | cons c rest =>
      have hc : c ∈ [',', '\x7d', ']'] := h c rfl
      simp only [List.mem_cons, List.not_mem_nil, or_false] at hc
      rcases hc with rfl | rfl | rfl <;> rw [Utf8.encode_cons_ascii (by decide)] <;>
        simp [endOctets]

theorem isDigit_octet (h : c.isDigit = true) : c.toNat < 0x80 ∧ isDigit (octet c) = true := by
  have hval : 0x30 ≤ c.toNat ∧ c.toNat ≤ 0x39 := by
    simpa [Char.isDigit, UInt32.le_iff_toNat_le] using h
  have hascii : c.toNat < 0x80 := by omega
  refine ⟨hascii, ?_⟩
  simp [isDigit, UInt8.le_iff_toNat_le, toNat_octet hascii, hval]

theorem isToken_of_isDigit (h : c.isDigit = true) : isToken c = true := by
  obtain ⟨hascii, hdigit⟩ := isDigit_octet h
  have hrange : 0x30 ≤ (octet c).toNat := by
    simp only [isDigit, Bool.and_eq_true, decide_eq_true_eq, UInt8.le_iff_toNat_le] at hdigit
    exact hdigit.1
  have hblank : isBlank (octet c) = false := by
    simp only [isBlank, Bool.or_eq_false_iff, beq_eq_false_iff_ne, ne_eq, ← UInt8.toNat_inj,
      UInt8.reduceToNat]
    omega
  simp [isToken, hascii, hblank]

theorem head_toString (n : Nat) :
    ∃ c digits, (toString n).toList = c :: digits ∧ c.isDigit = true := by
  rw [Nat.toString_eq_ofList_toDigits, String.toList_ofList]
  obtain ⟨c, digits, hdigits⟩ := List.exists_cons_of_ne_nil (Nat.toDigits_ne_nil (n := n) (b := 10))
  exact ⟨c, digits, hdigits,
    Nat.isDigit_of_mem_toDigits (by decide) (by decide) (hdigits ▸ List.mem_cons_self)⟩

theorem isDigit_encode {digits : List Char} (h : ∀ c ∈ digits, c.isDigit = true) :
    ∀ b ∈ Utf8.encode digits, isDigit b = true := by
  intro b hb
  obtain ⟨c, hc, hb⟩ := List.mem_flatMap.mp hb
  obtain ⟨hascii, hdigit⟩ := isDigit_octet (h c hc)
  rw [Utf8.encodeChar_ascii hascii, List.mem_singleton] at hb
  exact hb ▸ hdigit

namespace Reader

theorem appendDigits_encode {digits : List Char} (hdigits : ∀ c ∈ digits, c.isDigit = true)
    {n : Nat} (hfits : Nat.ofDigitChars 10 digits n ≤ maxSignificand) :
    appendDigits n (Utf8.encode digits) =
      (Nat.ofDigitChars 10 digits n, (Utf8.encode digits).length) := by
  induction digits generalizing n with
  | nil => rfl
  | cons c digits ih =>
      rw [List.forall_mem_cons] at hdigits
      have hascii := (isDigit_octet hdigits.1).1
      have hgrown : n * 10 + ((octet c).toNat - 0x30) = 10 * n + (c.toNat - '0'.toNat) := by
        rw [toNat_octet hascii, Nat.mul_comm]
        rfl
      rw [Nat.ofDigitChars_cons] at hfits ⊢
      have hroom := Nat.le_trans (Text.le_ofDigitChars digits _) hfits
      rw [Utf8.encode_cons_ascii hascii, appendDigits]
      simp only [hgrown]
      rw [if_neg (by omega), ih hdigits.2 hfits]
      rfl

theorem any_isDigit_of_end : ∀ seen ∈ endOctets, seen.any isDigit = false := by
  simp only [endOctets, List.forall_mem_cons]
  exact ⟨rfl, rfl, rfl, rfl, List.forall_mem_nil _⟩

theorem afterDigits_of_end (n : Nat) : ∀ seen ∈ endOctets,
    afterDigits true n 0 seen = pure (.natural n) := by
  simp only [endOctets, List.forall_mem_cons]
  exact ⟨rfl, rfl, rfl, rfl, List.forall_mem_nil _⟩

/-- A whole number is read back from its digits. -/
theorem reads_numeral {n : Nat} (hfits : n ≤ maxSignificand) (hrest : EndsValue rest) :
    (numeral true).Reads ((toString n).toList ++ rest) (.natural n) rest := by
  have hend := head_of_endsValue hrest
  have hstop := any_isDigit_of_end _ hend
  have hafter (m : Nat) :
      (afterDigits true m 0 (Utf8.encode rest).head?).Reads rest (.natural m) rest := by
    rw [afterDigits_of_end m _ hend]
    exact reads_pure _ _
  rw [Nat.toString_eq_ofList_toDigits, String.toList_ofList]
  rcases Nat.eq_zero_or_pos n with rfl | hpos
  · exact (reads_next (by decide) rest).bind <| .ite_pos rfl <| (reads_peek rest).bind <|
      .ite_neg (by rw [hstop]; exact Bool.false_ne_true) (hafter 0)
  · have hall : ∀ c ∈ Nat.toDigits 10 n, c.isDigit = true := fun c hc =>
      Nat.isDigit_of_mem_toDigits (by decide) (by decide) hc
    have hvalue : Nat.ofDigitChars 10 (Nat.toDigits 10 n) 0 = n :=
      Nat.ofDigitChars_toDigits (by decide) (by decide)
    have hzero : (Nat.toDigits 10 n).head? ≠ some '0' := Text.head_toDigits (by decide) hpos
    cases hdigits : Nat.toDigits 10 n with
    | nil => exact absurd hdigits Nat.toDigits_ne_nil
    | cons c digits =>
        rw [hdigits, List.forall_mem_cons] at hall
        rw [hdigits, Nat.ofDigitChars_cons] at hvalue
        rw [hdigits, List.head?_cons, ne_eq, Option.some.injEq] at hzero
        obtain ⟨hascii, hdigit⟩ := isDigit_octet hall.1
        have hfirst : octet c ≠ octet '0' := fun h => hzero (octet_inj hascii (by decide) h)
        have hstart : (octet c).toNat - 0x30 = 10 * 0 + (c.toNat - '0'.toNat) := by
          rw [toNat_octet hascii, Nat.mul_zero, Nat.zero_add]
          rfl
        have hgrown : appendDigits ((octet c).toNat - 0x30) (Utf8.encode digits) =
            (n, (Utf8.encode digits).length) := by
          rw [hstart, appendDigits_encode hall.2 (by rwa [hvalue]), hvalue]
        refine (reads_next hascii _).bind <| .ite_neg hfirst <| .ite_pos hdigit <|
          (reads_span digits (isDigit_encode hall.2) fun b hb => ?_).bind ?_
        · rw [hb] at hstop
          exact hstop
        · simp only [hgrown, Nat.sub_self]
          exact hafter n

end Reader

end OciBlobs.Json
