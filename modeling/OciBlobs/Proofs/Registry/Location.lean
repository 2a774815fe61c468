/-
# `Proofs.Registry.Location` — the query that closes an upload

The query of a location may have been written by anybody, in any spelling.
It is read into pairs and written anew from those that are kept, so all that
has to be known is that written pairs are read back (`Form.pairs_render`).

The pairs are read as texts.  What a registry spelled that is no text is not
what comes back to it: there are replacements in it (`keptOctets_withDigest`).
-/
import OciBlobs.Proofs.Url.Form
import OciBlobs.Registry.Location

namespace OciBlobs

theorem Url.pairs_withPairs (url : Url) (pairs : List (List Char × List Char)) :
    (url.withPairs pairs).pairs = pairs :=
  Form.pairs_render pairs

namespace Registry

variable (location : Url) (digest : Digest)

/-- The pairs of a location that are none of a digest. -/
def keptPairs : List (List Char × List Char) :=
  location.pairs.filter fun pair => pair.1 != digestKey

theorem keptPairs_withDigest : keptPairs (withDigest location digest) = keptPairs location := by
  unfold keptPairs withDigest
  rw [Url.pairs_withPairs, List.filter_append, List.filter_filter]
  simp

/-- A digest replaces the one that is there, however its key is spelled and how
often, and comes last.  The other pairs stay as they are read and in their
order, and all the rest of the location stays as it is.  Of two digests only the
later one is left to see, also in the text. -/
theorem withDigest_replaces (location : Url) (digest later : Digest) :
    let closing := withDigest location digest
    closing.pairs =
      (location.pairs.filter fun pair => pair.1 != digestKey) ++ [(digestKey, digest.chars)] ∧
    closing = { location with query := closing.query } ∧
    (closing.scheme = location.scheme ∧ closing.username = location.username ∧
      closing.password = location.password ∧ closing.host? = location.host? ∧
      closing.port? = location.port? ∧ closing.path = location.path ∧
      closing.fragment = location.fragment) ∧
    (withDigest closing later).text = (withDigest location later).text := by
  intro closing
  refine ⟨Url.pairs_withPairs _ _, rfl, ⟨rfl, rfl, rfl, rfl, rfl, rfl, rfl⟩, ?_⟩
  have hkept : keptPairs closing = keptPairs location := keptPairs_withDigest location digest
  have hsame : withDigest closing later = withDigest location later :=
    congrArg (fun kept => location.withPairs (kept ++ [(digestKey, later.chars)])) hkept
  rw [hsame]

/-- A digest with an escaped key, and one without a value; an empty pair is kept. -/
example :
    let query := "%64igest=a&n=1+2&digest&&=".toList
    keptPairs { scheme := ['x'], authority := none, path := .flat [], query := some query } =
      [(['n'], ['1', ' ', '2']), ([], [])] := by
  decide +kernel

/-! ## The octets of the other pairs -/

/-- The pairs of a location that are none of a digest, as the octets that they
stand for. -/
def keptOctets : List (Bytes × Bytes) :=
  (Url.Form.rawPairs (location.query.getD [])).filter fun pair =>
    pair.1 != Utf8.encode digestKey

/-- Octets with replacements where they are no text. -/
def replaced (octets : Bytes) : Bytes :=
  Utf8.encode (Utf8.decodeLossy octets)

theorem replaced_eq_self_iff {octets : Bytes} :
    replaced octets = octets ↔ ∃ text, octets = Utf8.encode text := by
  constructor
  · intro h
    exact ⟨_, h.symm⟩
  · rintro ⟨text, rfl⟩
    rw [replaced, Utf8.decodeLossy_encode]

theorem decodeLossy_eq_digestKey {octets : Bytes} :
    Utf8.decodeLossy octets = digestKey ↔ octets = Utf8.encode digestKey := by
  constructor
  · intro h
    have hplain : Char.ofNat 0xFFFD ∉ Utf8.decodeLossy octets := by
      rw [h]
      decide
    rw [← h, Utf8.encode_decodeLossy hplain]
  · rintro rfl
    exact Utf8.decodeLossy_encode digestKey

/-- The pairs that are kept are read from the octets of those that are none of a
digest. -/
theorem keptPairs_eq : keptPairs location = (keptOctets location).map fun pair =>
    (Utf8.decodeLossy pair.1, Utf8.decodeLossy pair.2) := by
  have hkey (pair : Bytes × Bytes) :
      (Utf8.decodeLossy pair.1 != digestKey) = (pair.1 != Utf8.encode digestKey) := by
    rw [Bool.eq_iff_iff, bne_iff_ne, bne_iff_ne, ne_eq, decodeLossy_eq_digestKey]
  unfold keptPairs keptOctets Url.pairs Url.Form.pairs
  rw [List.filter_map]
  congr 1
  exact List.filter_congr fun pair _ => hkey pair

/-- A pair of texts that is kept is none of a digest in its octets either. -/
theorem encode_ne_of_kept {pair : List Char × List Char} (h : pair ∈ keptPairs location) :
    (Utf8.encode pair.1 != Utf8.encode digestKey) = true := by
  have hkept : (pair.1 != digestKey) = true := (List.mem_filter.mp h).2
  rw [bne_iff_ne] at hkept ⊢
  intro hsame
  exact hkept (by rw [← Utf8.decodeLossy_encode pair.1, hsame, Utf8.decodeLossy_encode])

theorem keptOctets_withDigest :
    keptOctets (withDigest location digest) =
      (keptOctets location).map fun pair => (replaced pair.1, replaced pair.2) := by
  have hquery : (withDigest location digest).query.getD [] =
      Url.Form.render (keptPairs location ++ [(digestKey, digest.chars)]) := rfl
  have hkept : ∀ pair ∈ (keptPairs location).map fun pair =>
      (Utf8.encode pair.1, Utf8.encode pair.2),
      (pair.1 != Utf8.encode digestKey) = true := by
    intro pair hm
    obtain ⟨texts, ht, rfl⟩ := List.mem_map.mp hm
    exact encode_ne_of_kept location ht
  have hdigest : ([(digestKey, digest.chars)].map fun pair =>
      (Utf8.encode pair.1, Utf8.encode pair.2)).filter
        (fun pair => pair.1 != Utf8.encode digestKey) = [] := by
    simp
  rw [keptOctets, hquery, Url.Form.rawPairs_render, List.map_append, List.filter_append, hdigest,
    List.append_nil, List.filter_eq_self.mpr hkept, keptPairs_eq, List.map_map]
  rfl

/-- The pairs that a registry put into a location, and did not call a digest, come
back to it in their order, as the octets that they stand for, with replacements.
They are the same pairs exactly when each of their names and values is a text. -/
theorem withDigest_keeps_octets_iff (location : Url) (digest : Digest) :
    let closing := withDigest location digest
    keptOctets closing =
      (keptOctets location).map (fun pair => (replaced pair.1, replaced pair.2)) ∧
    (keptOctets closing = keptOctets location ↔ ∀ pair ∈ keptOctets location,
      (∃ name, pair.1 = Utf8.encode name) ∧ ∃ value, pair.2 = Utf8.encode value) := by
  intro closing
  refine ⟨keptOctets_withDigest location digest, ?_⟩
  rw [keptOctets_withDigest]
  constructor
  · intro hsame pair hm
    have hfix := List.map_inj_left.mp (hsame.trans (List.map_id _).symm) pair hm
    rw [id_eq, Prod.ext_iff] at hfix
    exact ⟨replaced_eq_self_iff.mp hfix.1, replaced_eq_self_iff.mp hfix.2⟩
  · intro htexts
    refine (List.map_congr_left fun pair hm => ?_).trans (List.map_id _)
    obtain ⟨hname, hvalue⟩ := htexts pair hm
    exact Prod.ext (replaced_eq_self_iff.mpr hname) (replaced_eq_self_iff.mpr hvalue)

/-- A state that is the octet `FF` comes back as the three octets of a
replacement. -/
theorem withDigest_replaces_octet :
    let digest : Digest :=
      ⟨['s', 'h', 'a', '2', '5', '6'], ['a', 'b', 'c'], by decide, by decide, by decide, by decide⟩
    (Url.parse "http://h/u?_state=%FF").toOption.map (fun location =>
        ((keptOctets location).map (·.2), (keptOctets (withDigest location digest)).map (·.2))) =
      some ([[0xFF]], [[0xEF, 0xBF, 0xBD]]) := by
  decide +kernel

end Registry

end OciBlobs
