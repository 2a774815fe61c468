/-
# `Proofs.Files` — making a file changes that file and no other

What an entry is put at is found there (`find_put_self`).  At all other places
there is what there was, as long as the entry has a directory to lie in
(`find_put_of_ne`): the directories that its place needs were there already.

A path at which a file can be made leads to a name in a directory
(`Destination`), and once the file is made, the path opens it
(`Destination.opens`).

    readsOf_flatten   the reads of content are the content
    walk_append       a walk in two parts, past a directory
    create_eq_ok      where a file is made
-/
import OciBlobs.Files

namespace OciBlobs.Files

/-! ## Reads -/

theorem readsOf_flatten (content : Bytes) : (readsOf content).flatten = content := by
  rw [readsOf]
  split
  case isTrue hshort =>
    cases content with
    | nil => rfl
    | cons b rest => exact List.append_nil _
  case isFalse hlong =>
    rw [List.flatten_cons, readsOf_flatten (content.drop readSize), List.take_append_drop]
termination_by content.length
decreasing_by
  simp only [readSize, List.length_drop] at *
  omega

theorem readsOf_ne_nil (content : Bytes) : ∀ bytes ∈ readsOf content, bytes ≠ [] := by
  rw [readsOf]
  split
  case isTrue hshort =>
    cases content with
    | nil => nofun
    | cons b rest =>
        intro bytes hm
        rw [List.mem_singleton.mp hm]
        exact List.cons_ne_nil b rest
  case isFalse hlong =>
    intro bytes hm
    rcases List.mem_cons.mp hm with rfl | hm
    · intro hnil
      have hlength := congrArg List.length hnil
      simp only [List.length_take, List.length_nil, readSize] at hlength hlong
      omega
    · exact readsOf_ne_nil (content.drop readSize) bytes hm
termination_by content.length
decreasing_by
  simp only [readSize, List.length_drop] at *
  omega

/-! ## Places -/

variable {files : Files} {place other parent : Place} {name : String}

theorem Place.leadsTo_iff : place.leadsTo other = true ↔
    place.origin = other.origin ∧ place.names <+: other.names := by
  rw [Place.leadsTo, Bool.and_eq_true, beq_iff_eq, List.isPrefixOf_iff_prefix]

theorem Place.leadsTo_trans {last : Place} (h : place.leadsTo other = true)
    (h' : other.leadsTo last = true) : place.leadsTo last = true := by
  rw [leadsTo_iff] at h h' ⊢
  exact ⟨h.1.trans h'.1, h.2.trans h'.2⟩

theorem Place.leadsTo_down (h : other.leadsTo (parent.down name) = true)
    (hne : other ≠ parent.down name) : other.leadsTo parent = true := by
  rw [leadsTo_iff] at h ⊢
  refine ⟨h.1, ?_⟩
  rcases List.prefix_concat_iff.mp h.2 with heq | hprefix
  · exact absurd (by cases other; cases h.1; cases heq; rfl) hne
  · exact hprefix

theorem exists_of_directory (h : files.find? place = some .directory) :
    place.names = [] ∨ ∃ entry ∈ files.entries, place.leadsTo entry.1 = true := by
  unfold find? at h
  split at h
  case h_1 entry hentry =>
    obtain ⟨before, behind, hsplit, -⟩ := List.lookup_eq_some_iff.mp hentry
    exact .inr ⟨(place, entry), by simp [hsplit], Place.leadsTo_iff.mpr ⟨rfl, List.prefix_rfl⟩⟩
  · split at h
    case isTrue hlead =>
      simpa using hlead
    case isFalse => cases h

/-! ## An entry that is put -/

theorem lookup_put_self (files : Files) (place : Place) (entry : Entry) :
    (files.put place entry).entries.lookup place = some entry := by
  have hnone : (files.entries.filter fun old => old.1 != place).lookup place = none := by
    refine List.lookup_eq_none_iff.mpr fun old hm => ?_
    rw [bne_comm]
    exact (List.mem_filter.mp hm).2
  rw [put, List.lookup_append, hnone, List.lookup_cons_self]
  rfl

theorem find_put_self (files : Files) (place : Place) (entry : Entry) :
    (files.put place entry).find? place = some entry := by
  rw [find?, lookup_put_self]

theorem lookup_filter_of_ne (h : other ≠ place) (entries : List (Place × Entry)) :
    (entries.filter fun old => old.1 != place).lookup other = entries.lookup other := by
  induction entries with
  | nil => rfl
  | cons old rest ih =>
      by_cases hold : old.1 = place
      · have hother : (other == old.1) = false := by simpa [hold] using h
        rw [List.filter_cons_of_neg (by simp [hold]), List.lookup_cons, hother]
        exact ih
      · rw [List.filter_cons_of_pos (by simp [hold]), List.lookup_cons, List.lookup_cons, ih]

theorem lookup_put_of_ne (h : other ≠ place) (files : Files) (entry : Entry) :
    (files.put place entry).entries.lookup other = files.entries.lookup other := by
  have hnew : (other == place) = false := by simpa using h
  rw [put, List.lookup_append, lookup_filter_of_ne h, List.lookup_cons, hnew]
  exact Option.or_none

theorem lead_put_iff (hd : files.find? parent = some .directory) (hne : other ≠ parent.down name)
    (entry : Entry) :
    (other.names = [] ∨
        ∃ old ∈ (files.put (parent.down name) entry).entries, other.leadsTo old.1 = true) ↔
      other.names = [] ∨ ∃ old ∈ files.entries, other.leadsTo old.1 = true := by
  constructor
  · rintro (hnil | ⟨old, hm, hlead⟩)
    · exact .inl hnil
    · rcases List.mem_append.mp hm with hm | hm
      · exact .inr ⟨old, (List.mem_filter.mp hm).1, hlead⟩
      · -- what leads to the new entry leads to its directory, which was there
        rw [List.mem_singleton.mp hm] at hlead
        have hparent := Place.leadsTo_down hlead hne
        rcases exists_of_directory hd with hnil | ⟨inner, hinner, hbelow⟩
        · have hprefix := (Place.leadsTo_iff.mp hparent).2
          rw [hnil] at hprefix
          exact .inl (List.prefix_nil.mp hprefix)
        · exact .inr ⟨inner, hinner, Place.leadsTo_trans hparent hbelow⟩
  · rintro (hnil | ⟨old, hm, hlead⟩)
    · exact .inl hnil
    · refine .inr ?_
      by_cases hold : old.1 = parent.down name
      · exact ⟨(parent.down name, entry), by simp [put], hold ▸ hlead⟩
      · exact ⟨old, by simp [put, hm, hold], hlead⟩

theorem find_put_of_ne (hd : files.find? parent = some .directory)
    (hne : other ≠ parent.down name) (entry : Entry) :
    (files.put (parent.down name) entry).find? other = files.find? other := by
  have hlead := lead_put_iff hd hne entry
  unfold find?
  rw [lookup_put_of_ne hne]
  congr 1
  simp only [Bool.or_eq_true, List.isEmpty_iff, List.any_eq_true, hlead]

theorem put_put (files : Files) (place : Place) (first second : Entry) :
    (files.put place first).put place second = files.put place second := by
  simp [put, List.filter_append]

/-! ## Walks -/

theorem walk_append {after : Files}
    (hkeep : ∀ place, files.find? place = some .directory → after.find? place = some .directory) :
    ∀ (front : List String) {start : Place}, files.walk start front = .ok parent →
      files.find? parent = some .directory → ∀ rest,
      after.walk start (front ++ rest) = after.walk parent rest := by
  intro front
  induction front with
  | nil =>
      intro start hwalk _ rest
      cases hwalk
      rfl
  | cons next front ih =>
      intro start hwalk hd rest
      rw [walk] at hwalk
      rw [List.cons_append, walk]
      split at hwalk
      case isTrue hstay =>
        rw [if_pos hstay]
        exact ih hwalk hd rest
      case isFalse hgo =>
        rw [if_neg hgo]
        split at hwalk
        case isTrue hup =>
          rw [if_pos hup]
          exact ih hwalk hd rest
        case isFalse hdown =>
          rw [if_neg hdown]
          split at hwalk
          · cases hwalk
          case isFalse hlong =>
            rw [if_neg hlong]
            cases hfound : files.find? (start.down next) with
            | none => simp [hfound] at hwalk
            | some entry =>
                cases entry with
                | directory =>
                    rw [hkeep _ hfound]
                    simp only [hfound] at hwalk
                    exact ih hwalk hd rest
                | file content =>
                    -- a file could only be the end, and the end is a directory
                    simp only [hfound] at hwalk
                    split at hwalk
                    · cases hwalk
                      rw [hfound] at hd
                      cases hd
                    · cases hwalk

/-! ## Making a file -/

/-- A place at which a path can make a file: a name in a directory. -/
inductive Destination (files : Files) (path : String) : Place → Prop
  | inside {front : List String} {name : String} {parent : Place}
      (names : namesOf path = .ok (front ++ [name]))
      (walked : files.walk (startOf (front ++ [name])) front = .ok parent)
      (lies : files.find? parent = some .directory)
      (plain : name ≠ "" ∧ name ≠ "." ∧ name ≠ "..")
      (short : isLong name = false)
      (free : files.find? (parent.down name) ≠ some .directory) :
      Destination files path (parent.down name)

theorem names_ne_nil {path : String} {names : List String} (h : namesOf path = .ok names) :
    names ≠ [] := by
  unfold namesOf at h
  split at h
  · cases h
  split at h
  · cases h
  split at h
  · cases h
  · cases h
    simp [Text.cutAt_ne_nil]

theorem create_eq_ok {path : String} {after : Files} (h : files.create path = .ok (after, place)) :
    files.Destination path place ∧ after = files.put place (.file []) := by
  unfold create at h
  cases hnames : namesOf path with
  | error error =>
      rw [hnames] at h
      cases h
  | ok names =>
      rw [hnames] at h
      obtain ⟨front, name, rfl⟩ : ∃ front name, names = front ++ [name] := by
        rcases List.eq_nil_or_concat names with hnil | ⟨front, name, hconcat⟩
        · exact absurd hnil (names_ne_nil hnames)
        · exact ⟨front, name, hconcat.trans List.concat_eq_append⟩
      dsimp only [Bind.bind, Except.bind] at h
      split at h
      · cases h
      case h_2 parent hwalk =>
        split at h
        · cases h
        case isFalse hlies =>
          split at h
          · cases h
          case isFalse hplain =>
            split at h
            · cases h
            case isFalse hshort =>
              split at h
              · cases h
              case isFalse hfree =>
                have hne : name ≠ "" := fun heq => hplain (.inl (by simp [heq]))
                have hsteps : ((front ++ [name]).reverse.dropWhile (· == "")).reverse =
                    front ++ [name] := by
                  simp [hne]
                have hlast : (front ++ [name]).getLast?.getD "" = name := by simp
                rw [hsteps, hlast] at hplain hshort hfree h
                rw [hsteps, List.dropLast_concat] at hwalk
                cases h
                exact ⟨.inside hnames hwalk (Decidable.of_not_not hlies)
                  ⟨hne, fun heq => hplain (.inr (.inl heq)), fun heq => hplain (.inr (.inr heq))⟩
                  (by simpa using hshort) hfree, rfl⟩

namespace Destination

variable {path : String}

theorem find_other (h : files.Destination path place) (entry : Entry) (hne : other ≠ place) :
    (files.put place entry).find? other = files.find? other := by
  cases h with
  | inside names walked lies plain short free => exact find_put_of_ne lies hne entry

theorem opens (h : files.Destination path place) (content : Bytes) :
    (files.put place (.file content)).open? path = .ok (.file content) := by
  cases h with
  | @inside front name parent names walked lies plain short free =>
      let after := files.put (parent.down name) (.file content)
      have hkeep (directory : Place) (hd : files.find? directory = some .directory) :
          after.find? directory = some .directory := by
        have hne : directory ≠ parent.down name := fun heq => free (heq ▸ hd)
        rw [find_put_of_ne lies hne, hd]
      have hself : after.find? (parent.down name) = some (.file content) :=
        find_put_self files _ _
      have hlast : after.walk parent [name] = .ok (parent.down name) := by
        rw [walk, if_neg (by simp [plain.1, plain.2.1]), if_neg plain.2.2,
          if_neg (by simp [short]), hself]
        rfl
      show after.open? path = _
      unfold open?
      rw [names]
      show (after.walk (startOf (front ++ [name])) (front ++ [name])).bind _ = _
      rw [walk_append hkeep front walked lies [name], hlast]
      dsimp only [Except.bind]
      rw [hself]

end Destination

/-- The path leads to a file with the content, and at all other places there is
what there was before. -/
structure Saved (before : Files) (path : String) (content : Bytes) (after : Files) : Prop where
  opens : after.open? path = .ok (.file content)
  others : ∃ place, before.Destination path place ∧
    ∀ other, other ≠ place → after.find? other = before.find? other

theorem Destination.saved {path : String} (h : files.Destination path place) (content : Bytes) :
    files.Saved path content (files.put place (.file content)) where
  opens := h.opens content
  others := ⟨place, h, fun _ hne => h.find_other _ hne⟩

end OciBlobs.Files
