/-
# `Proofs.Digest.Grammar` — which texts are digests, and what every digest is

A text is a digest if it is one or more characters of an algorithm name, a colon,
and one or more characters of a hash (`Written`), and the digest is then that
text.  The grammar is what all else rests on.  A text of the grammar has a colon,
so its parts can be told from it (`cut_chars`); it is ASCII, so that the octets of
its hash can be cut anywhere (`toString_take`); and nothing in it is encoded or
read as a slash or as dots, so it stands in a URL as the segment that it is.

A digest that was not read, but made of a hash, is what reading its text gives
(`parse_text`), and so is one that stands in a document (`takes_toJson`).
-/
import OciBlobs.Digest.Document
import OciBlobs.Proofs.Digest
import OciBlobs.Proofs.Json.Checked
import OciBlobs.Proofs.Registry.Segment

namespace OciBlobs.Digest

open Json

variable {text : String} {digest : Digest}

/-! ## The grammar -/

/-- Lower-case letters, digits, and `+`, `.`, `_`, `-`. -/
def AlgorithmChar (c : Char) : Prop :=
  ('a' ≤ c ∧ c ≤ 'z') ∨ ('0' ≤ c ∧ c ≤ '9') ∨ c ∈ ['+', '.', '_', '-']

/-- Letters, digits, and `=`, `_`, `-`. -/
def EncodedChar (c : Char) : Prop :=
  ('A' ≤ c ∧ c ≤ 'Z') ∨ ('a' ≤ c ∧ c ≤ 'z') ∨ ('0' ≤ c ∧ c ≤ '9') ∨ c ∈ ['=', '_', '-']

/-- One or more characters of an algorithm name, a colon, and one or more
characters of a hash. -/
def Written (text : List Char) : Prop :=
  ∃ algorithm encoded : List Char, text = algorithm ++ ':' :: encoded ∧
    algorithm ≠ [] ∧ (∀ c ∈ algorithm, AlgorithmChar c) ∧
    encoded ≠ [] ∧ ∀ c ∈ encoded, EncodedChar c

theorem isAlgorithmChar_iff {c : Char} : isAlgorithmChar c = true ↔ AlgorithmChar c := by
  unfold isAlgorithmChar
  delta Char.isLower Char.isDigit
  simp only [AlgorithmChar, Bool.or_eq_true, Bool.and_eq_true, decide_eq_true_eq, beq_iff_eq,
    List.mem_cons, List.not_mem_nil, or_false, or_assoc, Char.le_def, ge_iff_le]

theorem isEncodedChar_iff {c : Char} : isEncodedChar c = true ↔ EncodedChar c := by
  unfold isEncodedChar
  delta Char.isAlphanum Char.isAlpha Char.isUpper Char.isLower Char.isDigit
  simp only [EncodedChar, Bool.or_eq_true, Bool.and_eq_true, decide_eq_true_eq, beq_iff_eq,
    List.mem_cons, List.not_mem_nil, or_false, or_assoc, Char.le_def, ge_iff_le]

theorem written_chars (digest : Digest) : Written digest.chars :=
  ⟨digest.algorithm, digest.encoded, rfl, digest.algorithm_ne,
    fun c hc => isAlgorithmChar_iff.mp (List.all_eq_true.mp digest.algorithm_valid c hc),
    digest.encoded_ne,
    fun c hc => isEncodedChar_iff.mp (List.all_eq_true.mp digest.encoded_valid c hc)⟩

theorem exists_of_written {text : List Char} (h : Written text) :
    ∃ digest : Digest, digest.chars = text := by
  obtain ⟨algorithm, encoded, rfl, ha, hav, he, hev⟩ := h
  have halgorithm := List.all_eq_true.mpr fun c hc => isAlgorithmChar_iff.mpr (hav c hc)
  have hencoded := List.all_eq_true.mpr fun c hc => isEncodedChar_iff.mpr (hev c hc)
  exact ⟨⟨algorithm, encoded, ha, halgorithm, he, hencoded⟩, rfl⟩

/-! ## The parts of a text -/

/-- What stands before the first colon of a text, and what stands behind it. -/
def cut? (text : List Char) : Option (List Char × List Char) :=
  match text.dropWhile (· != ':') with
  | [] => none
  | _ :: encoded => some (text.takeWhile (· != ':'), encoded)

theorem takeWhile_chars (digest : Digest) :
    digest.chars.takeWhile (· != ':') = digest.algorithm ∧
      digest.chars.dropWhile (· != ':') = ':' :: digest.encoded := by
  have hfront : ∀ c ∈ digest.algorithm, (c != ':') = true := fun c hc =>
    bne_iff_ne.mpr fun heq => digest.colon_not_mem (heq ▸ hc)
  unfold chars
  rw [List.takeWhile_append_of_pos hfront, List.dropWhile_append_of_pos hfront]
  simp

theorem cut_chars (digest : Digest) :
    cut? digest.chars = some (digest.algorithm, digest.encoded) := by
  obtain ⟨hfront, hback⟩ := digest.takeWhile_chars
  rw [cut?, hback, hfront]

theorem ofChars_chars (digest : Digest) : ofChars digest.chars = .ok digest := by
  obtain ⟨hfront, hback⟩ := digest.takeWhile_chars
  unfold ofChars
  dsimp only
  rw [hback]
  dsimp only
  simp only [hfront, digest.algorithm_ne, digest.algorithm_valid, digest.encoded_ne,
    digest.encoded_valid, dif_neg, dif_pos, not_false_eq_true]

theorem parse_text (digest : Digest) : parse digest.text = .ok digest := by
  rw [parse, text, String.toList_ofList, ofChars_chars]

theorem parse_ofHash (hash : Sha256.Chain) :
    parse ("sha256:" ++ String.ofList (Bytes.toHex hash.toBytes)) = .ok (ofHash hash) := by
  rw [← parse_text (ofHash hash), ← String.ofList_toList (s := "sha256:"), ← String.ofList_append]
  rfl

/-- The texts that are read as digests are those which are written as such. -/
theorem parse_iff_written : (∃ digest, parse text = .ok digest) ↔ Written text.toList := by
  constructor
  · rintro ⟨digest, h⟩
    rw [← text_of_parse h, Digest.text, String.toList_ofList]
    exact digest.written_chars
  · intro h
    obtain ⟨digest, hdigest⟩ := exists_of_written h
    refine ⟨digest, ?_⟩
    rw [← String.ofList_toList (s := text), ← hdigest]
    exact digest.parse_text

/-! ## Octets -/

theorem toString_take {text : List Char} (h : ∀ c ∈ text, c.toNat < 0x80) (count : Nat) :
    Utf8.toString? ((Utf8.encode text).take count) = some (String.ofList (text.take count)) := by
  have htake : (Utf8.encode text).take count = Utf8.encode (text.take count) := by
    induction text generalizing count with
    | nil => simp [Utf8.encode]
    | cons c rest ih =>
        obtain ⟨hc, hrest⟩ := List.forall_mem_cons.mp h
        cases count with
        | zero => rfl
        | succ count =>
            rw [Utf8.encode_cons_ascii hc, List.take_succ_cons, List.take_succ_cons,
              Utf8.encode_cons_ascii hc, ih hrest]
  rw [htake, Utf8.toString?, Utf8.decode_encode]
  rfl

theorem ascii_of_encoded {c : Char} (h : c ∈ digest.encoded) : c.toNat < 0x80 := by
  have hchars : c ∈ digest.chars := List.mem_append_right _ (List.mem_cons_of_mem _ h)
  have hlt := (Registry.Address.digest_char (Registry.Address.mem_digest hchars)).1
  omega

/-- The first twelve octets of a hash are its first twelve characters, or all of
them. -/
theorem short_eq (digest : Digest) :
    let octets := Utf8.encode digest.encoded
    octets.length = digest.encoded.length ∧
      Utf8.toString? (octets.take (min octets.length 12)) = some digest.short := by
  have hascii : ∀ c ∈ digest.encoded, c.toNat < 0x80 := fun c hc => ascii_of_encoded hc
  have hlength : (Utf8.encode digest.encoded).length = digest.encoded.length := by
    generalize digest.encoded = encoded at hascii
    induction encoded with
    | nil => rfl
    | cons c rest ih =>
        obtain ⟨hc, hrest⟩ := List.forall_mem_cons.mp hascii
        rw [Utf8.encode_cons_ascii hc, List.length_cons, List.length_cons, ih hrest]
  refine ⟨hlength, ?_⟩
  rw [hlength, toString_take hascii, short, List.take_eq_take_iff.mpr]
  omega

/-! ## Documents -/

theorem ofDocumentText_eq_ok {text : String} :
    ofDocumentText text = .ok digest ↔ parse text = .ok digest := by
  unfold ofDocumentText
  cases parse text <;> simp

theorem takes_toJson (depth : Nat) (digest : Digest) :
    decoder.Takes depth digest.toJson digest :=
  (Decoder.takes_text depth digest.text).checked (ofDocumentText_eq_ok.mpr digest.parse_text)

/-! ## URLs -/

theorem blob_text {written repository : String} {address : Registry.Address}
    (h : Registry.Address.parse written = .ok address) :
    ∃ lead : String, (address.blob repository digest).text = lead ++ "/" ++ digest.text := by
  obtain ⟨front, hfront⟩ := Registry.Address.blob_last h repository digest
  have hchars : (address.blob repository digest).chars =
      ((address.blob repository digest).origin ++
        (Url.Path.rooted (front ++ ["blobs".toList])).render) ++ '/' :: digest.chars := by
    rw [Url.chars, hfront]
    simp [Url.Path.render, Registry.Address.blob, Registry.Address.endpoint, Url.withPath,
      Url.renderQuery, Url.renderFragment]
  refine ⟨String.ofList ((address.blob repository digest).origin ++
    (Url.Path.rooted (front ++ ["blobs".toList])).render), ?_⟩
  apply String.toList_injective
  rw [Url.text, hchars, Digest.text]
  simp

/-! ## Every digest -/

/-- What a digest is.

A text is read as a digest exactly if it is written as one, and is kept as it is.
A digest in a document is one of the document's strings, read so, alone or in a
list; one that is made of a hash is what its text would be read as.  Of every
digest, then, the text is written as one; it is cut at its first colon into the
two parts; the short form is the hash up to twelve characters, cut in octets; the
text and the document are read back as the digest; and in all URLs of a registry
it is the last segment, in which nothing is encoded. -/
theorem grammar_of_digests :
    (∀ text : String,
      ((∃ digest, parse text = .ok digest) ↔ Written text.toList) ∧
      ∀ digest, parse text = .ok digest → digest.text = text) ∧
    (∀ (document : String) (digest : Digest), decoder.ofText document = .ok digest ↔
      ∃ text, Decoder.text.ofText document = .ok text ∧ parse text = .ok digest) ∧
    (∀ (document : String) (digests : List Digest),
      (Decoder.list decoder).ofText document = .ok digests →
        ∃ texts, (Decoder.list .text).ofText document = .ok texts ∧
          List.Forall₂ (fun text digest => parse text = .ok digest) texts digests) ∧
    (∀ content : Bytes,
      parse ("sha256:" ++ String.ofList (Bytes.toHex (Sha256.hash content).toBytes)) =
        .ok (sha256 content)) ∧
    (∀ (reads : List (Except IoError Bytes)) (digest : Digest), ofReads reads = .ok digest →
      ∃ hash : Sha256.Chain,
        parse ("sha256:" ++ String.ofList (Bytes.toHex hash.toBytes)) = .ok digest) ∧
    ∀ digest : Digest,
      let octets := Utf8.encode digest.encoded
      Written digest.text.toList ∧
      digest.text = String.ofList digest.algorithm ++ ":" ++ String.ofList digest.encoded ∧
      cut? digest.text.toList = some (digest.algorithm, digest.encoded) ∧
      digest.short.toList = digest.encoded.take (min digest.encoded.length 12) ∧
      octets.length = digest.encoded.length ∧
      Utf8.toString? (octets.take (min octets.length 12)) = some digest.short ∧
      parse digest.text = .ok digest ∧
      decoder.ofText (String.ofList digest.toJson.compact) = .ok digest ∧
      decoder.ofStream (Utf8.encode digest.toJson.compact) = .ok digest ∧
      '/' ∉ digest.text.toList ∧
      Url.encode Url.inPathSet digest.text.toList = digest.text.toList ∧
      ∀ (written repository : String) (address : Registry.Address),
        Registry.Address.parse written = .ok address →
        (∃ front, (address.blob repository digest).path =
          .rooted (front ++ [digest.text.toList])) ∧
        ∃ lead : String, (address.blob repository digest).text = lead ++ "/" ++ digest.text := by
  refine ⟨fun text => ⟨parse_iff_written, fun _ => text_of_parse⟩, fun document digest => ?_,
    fun document digests h => ?_, fun content => ?_, fun reads digest h => ?_, fun digest => ?_⟩
  · simp only [decoder, Decoder.checked_ofText, ofDocumentText_eq_ok]
  · obtain ⟨texts, htexts, hread⟩ := Decoder.list_checked_ofText h
    exact ⟨texts, htexts, hread.imp fun _ _ => ofDocumentText_eq_ok.mp⟩
  · exact parse_ofHash (Sha256.hash content)
  · obtain ⟨hasher, -, hdigest⟩ := Except.bind_eq_ok h
    cases hdigest
    exact ⟨hasher.finish, parse_ofHash _⟩
  · obtain ⟨hlength, hshort⟩ := digest.short_eq
    have hsettled := Registry.Address.settled_digest digest
    have htext : digest.text.toList = digest.chars := String.toList_ofList
    have hslash : '/' ∉ digest.chars := fun hm => nomatch hsettled.unslashed '/' hm
    have htakes := takes_toJson Reader.depthLimit digest
    rw [htext]
    refine ⟨digest.written_chars, ?_, digest.cut_chars, ?_, hlength, hshort, digest.parse_text,
      htakes.ofText, htakes.ofStream, hslash,
      Url.encode_eq_self hsettled.kept, fun written repository address h => ⟨?_, blob_text h⟩⟩
    · apply String.toList_injective
      rw [htext]
      simp [chars]
    · rw [short, String.toList_ofList, List.take_eq_take_iff]
      omega
    · obtain ⟨front, hfront⟩ := Registry.Address.blob_last h repository digest
      exact ⟨front ++ ["blobs".toList], by rw [hfront]; simp⟩

end OciBlobs.Digest
