import MusicFiling.Proofs.Disk.Within

/-!
# The same disk with another text in one file

What a disk does with paths depends on where its files stand and not on what is in them. So a move
or a removal that reaches neither a file nor a folder above it comes out the same whatever the text
of that file is, and leaves that text as it is.
-/

namespace MusicFiling

/-- An entry, with another text if it is a file that stands at a given place. -/
def Entry.withText (place : Place) (text : List UInt8) (q : Place) : Entry → Entry
  | .file content => .file (if q = place then text else content)
  | .folder => .folder

/-- A disk on which the file at a place, if there is one, has another text. -/
def Disk.withText (place : Place) (text : List UInt8) (d : Disk) : Disk :=
  { d with entries := d.entries.map fun e => (e.1, e.2.withText place text e.1) }

/-- An operation after which the file at a place has another text. -/
def Attempt.withText (place : Place) (text : List UInt8) (a : Attempt) : Attempt :=
  ⟨a.disk.withText place text, a.fault⟩

variable {place : Place} {text : List UInt8}

private theorem Entry.withText_of_ne {q : Place} (other : q ≠ place) (entry : Entry) :
    entry.withText place text q = entry := by
  cases entry <;> simp [Entry.withText, other]

@[simp] theorem Entry.isFolder_withText (q : Place) (entry : Entry) :
    (entry.withText place text q).isFolder = entry.isFolder := by
  cases entry <;> rfl

namespace Disk

variable (d : Disk)

@[simp] theorem entry?_withText (q : Place) :
    entry? (d.withText place text) q = (d.entry? q).map (Entry.withText place text q) := by
  by_cases root : q = []
  · subst root
    rfl
  · rw [entry?_of_ne_nil _ root, entry?_of_ne_nil _ root]
    exact lookup_map_value (Entry.withText place text) q d.entries

private theorem entry?_withText_of_ne {q : Place} (other : q ≠ place) :
    entry? (d.withText place text) q = d.entry? q := by
  rw [entry?_withText]
  cases d.entry? q with
  | none => rfl
  | some entry => exact congrArg some (entry.withText_of_ne other)

@[simp] theorem nominal_withText : (d.withText place text).nominal = d.nominal :=
  funext (nominal_congr rfl)

@[simp] theorem follow_withText (q : Place) (cs : List Component) :
    (d.withText place text).follow q cs = d.follow q cs := by
  induction cs generalizing q with
  | nil => rfl
  | cons c rest ih =>
    unfold follow
    rw [entry?_withText]
    rcases d.entry?_cases q with vacant | folder | ⟨content, file⟩
    · simp [vacant]
    · simp [folder, Entry.withText, ih]
    · simp [file, Entry.withText]

@[simp] theorem reach_withText (p : Path) : (d.withText place text).reach p = d.reach p := by
  unfold reach
  rw [follow_withText]
  rfl

theorem at?_withText (p : Path) :
    (d.withText place text).at? p =
      (d.at? p).map (Option.map (Entry.withText place text (d.nominal p))) := by
  unfold at?
  rw [reach_withText]
  cases led : d.reach p with
  | ok q =>
    obtain rfl := reach_eq_nominal led
    exact congrArg Except.ok (entry?_withText d _)
  | error cause => cases cause <;> rfl

@[simp] theorem find?_withText_isSome (p : Path) :
    ((d.withText place text).find? p).isSome = (d.find? p).isSome := by
  unfold find?
  rw [reach_withText]
  cases d.reach p <;> simp

@[simp] theorem isFolder_withText (p : Path) :
    (d.withText place text).isFolder p = d.isFolder p := by
  unfold isFolder find?
  rw [reach_withText]
  cases d.reach p with
  | error cause => rfl
  | ok q =>
    simp only [entry?_withText]
    cases d.entry? q with
    | none => rfl
    | some entry => exact entry.isFolder_withText q

@[simp] theorem samePlace_withText (p q : Path) :
    (d.withText place text).samePlace p q = d.samePlace p q := by
  simp [samePlace]

private theorem put_withText {q : Place} {entry : Entry} (other : q ≠ place ∨ entry = .folder) :
    (d.withText place text).put q entry = (d.put q entry).withText place text := by
  have same : entry.withText place text q = entry := by
    rcases other with other | rfl
    · exact entry.withText_of_ne other
    · rfl
  simp [put, withText, List.filter_map, Function.comp_def, same]

private theorem clear_withText (q : Place) :
    (d.withText place text).clear q = (d.clear q).withText place text := by
  simp [clear, withText, List.filter_map, Function.comp_def]

private theorem putAll_withText {b : Place} (apart : ¬b <+: place)
    (entries : List (Place × Entry)) :
    (d.withText place text).putAll b entries = (d.putAll b entries).withText place text := by
  induction entries generalizing d with
  | nil => rfl
  | cons e rest ih =>
    have other : b ++ e.1 ≠ place := by
      rintro rfl
      exact apart (List.prefix_append _ _)
    have first : (d.withText place text).put (b ++ e.1) e.2 =
        (d.put (b ++ e.1) e.2).withText place text := put_withText d (.inl other)
    simp only [putAll, List.foldl_cons] at ih ⊢
    rw [first, ih]

private theorem below_withText {a : Place} (apart : ¬a <+: place) :
    (d.withText place text).below a = d.below a := by
  simp only [below, withText, List.filter_map, List.map_map]
  refine List.map_congr_left fun e member => ?_
  -- The file with the other text does not stand below `a`.
  have other : e.1 ≠ place := by
    intro same
    have inside := (List.mem_filter.mp member).2
    simp [same, apart] at inside
  simp [e.2.withText_of_ne other]

private theorem isBare_withText (a : Place) :
    (d.withText place text).isBare a = d.isBare a := by
  simp [isBare, below, withText, List.filter_map, Function.comp_def]

private theorem relocate_withText {a b : Place} (origin : ¬a <+: place) (goal : ¬b <+: place)
    (entry : Entry) :
    (d.withText place text).relocate a b entry = (d.relocate a b entry).withText place text := by
  have other : b ≠ place := by
    rintro rfl
    exact goal List.prefix_rfl
  simp only [relocate, below_withText d origin, clear_withText,
    put_withText (d.clear a) (.inl other), putAll_withText _ goal]
  rfl

private theorem removeFolderAt_withText (a : Place) (path : Path) :
    (d.withText place text).removeFolderAt a path =
      (d.removeFolderAt a path).withText place text := by
  unfold removeFolderAt
  split
  · exact congrArg Attempt.done (clear_withText d a)
  · simp [Attempt.stopped, Attempt.withText, withText, List.filter_map, Function.comp_def]

theorem next_withText {a : Attempt} {f : Disk → Attempt}
    (same : f (a.disk.withText place text) = (f a.disk).withText place text) :
    (a.withText place text).next f = (a.next f).withText place text := by
  obtain ⟨d, fault⟩ := a
  cases fault with
  | none => exact same
  | some fault => rfl

private theorem makeFolder_withText (p : Path) :
    (d.withText place text).makeFolder p = (d.makeFolder p).map (withText place text) := by
  unfold makeFolder
  rw [reach_withText]
  cases d.reach p with
  | error cause => rfl
  | ok q =>
    simp only [entry?_withText]
    cases d.entry? q with
    | some entry => rfl
    | none => exact congrArg Except.ok (put_withText d (.inr rfl))

private theorem acceptFolder_withText (p : Path) (cause : Cause) :
    (d.withText place text).acceptFolder p cause =
      (d.acceptFolder p cause).withText place text := by
  unfold acceptFolder
  rw [isFolder_withText]
  split <;> rfl

private theorem makeFoldersUpTo_withText (p : Path) (n : Nat) :
    (d.withText place text).makeFoldersUpTo p n =
      (d.makeFoldersUpTo p n).withText place text := by
  induction n with
  | zero =>
    unfold makeFoldersUpTo
    rw [makeFolder_withText]
    cases d.makeFolder (p.upTo 0) with
    | ok d' => rfl
    | error cause => exact acceptFolder_withText d _ cause
  | succ n ih =>
    unfold makeFoldersUpTo
    rw [makeFolder_withText]
    cases d.makeFolder (p.upTo (n + 1)) with
    | ok d' => rfl
    | error cause =>
      cases cause with
      | notFound =>
        simp only [Except.map]
        rw [ih]
        refine next_withText ?_
        rw [makeFolder_withText]
        cases (d.makeFoldersUpTo p n).disk.makeFolder (p.upTo (n + 1)) with
        | ok d'' => rfl
        | error cause => exact acceptFolder_withText _ _ cause
      | _ => exact acceptFolder_withText d _ _

theorem makeFolders_withText (p : Path) :
    (d.withText place text).makeFolders p = (d.makeFolders p).withText place text :=
  makeFoldersUpTo_withText d p _

private theorem openForReading_withText {p : Path} (apart : d.nominal p ≠ place) :
    (d.withText place text).openForReading p = d.openForReading p := by
  unfold openForReading
  rw [reach_withText]
  cases led : d.reach p with
  | error cause => rfl
  | ok q =>
    have other : q ≠ place := by rwa [reach_eq_nominal led]
    simp only [entry?_withText_of_ne d other]

private theorem openForWriting_withText (p : Path) :
    (d.withText place text).openForWriting p = d.openForWriting p := by
  unfold openForWriting
  rw [reach_withText]
  cases d.reach p with
  | error cause => rfl
  | ok q =>
    simp only [entry?_withText]
    rcases d.entry?_cases q with vacant | folder | ⟨content, file⟩
    · simp [vacant]
    · simp [folder, Entry.withText]
    · simp [file, Entry.withText]

theorem unlink_withText {p : Path} (apart : d.nominal p ≠ place) :
    (d.withText place text).unlink p = (d.unlink p).withText place text := by
  unfold unlink
  rw [openForReading_withText d apart]
  cases d.openForReading p with
  | error fault => rfl
  | ok found => exact congrArg Attempt.done (clear_withText d found.1)

private theorem copyOnto_withText {source destination : Path} (origin : d.nominal source ≠ place)
    (goal : d.nominal destination ≠ place) :
    (d.withText place text).copyOnto source destination =
      (d.copyOnto source destination).withText place text := by
  unfold copyOnto
  rw [openForReading_withText d origin, openForWriting_withText]
  cases d.openForReading source with
  | error fault => rfl
  | ok found =>
    cases arrived : d.openForWriting destination with
    | error fault => rfl
    | ok q =>
      have other : q ≠ place := by
        rwa [reach_eq_nominal (openForWriting_ok.mp arrived).1]
      simp only [put_withText d (.inl other)]
      split <;> rfl

section

variable {source destination : Path} (origin : ¬d.nominal source <+: place)
include origin

private theorem rename_withText (goal : ¬d.nominal destination <+: place) :
    (d.withText place text).rename source destination =
      (d.rename source destination).map (withText place text) := by
  unfold rename
  rw [reach_withText, reach_withText]
  cases led : d.reach source with
  | error cause => rfl
  | ok a =>
    cases led' : d.reach destination with
    | error cause => rfl
    | ok b =>
      rw [← reach_eq_nominal led] at origin
      rw [← reach_eq_nominal led'] at goal
      have other : a ≠ place := by
        rintro rfl
        exact origin List.prefix_rfl
      have elsewhere : b ≠ place := by
        rintro rfl
        exact goal List.prefix_rfl
      simp only [entry?_withText_of_ne d other, entry?_withText_of_ne d elsewhere,
        isBare_withText, relocate_withText d origin goal]
      cases d.entry? a with
      | none => split_ifs <;> rfl
      | some entry =>
        cases entry <;> rcases d.entry?_cases b with stands | stands | ⟨content, stands⟩
        all_goals
          simp only [stands]
          split_ifs <;> rfl

private theorem copyFolderAway_withText (goal : ¬d.nominal destination <+: place) :
    (d.withText place text).copyFolderAway source destination =
      (d.copyFolderAway source destination).withText place text := by
  unfold copyFolderAway
  rw [reach_withText]
  cases led : d.reach source with
  | error cause => rfl
  | ok a =>
    simp only [makeFolders_withText]
    refine next_withText ?_
    have later := (makeFolders_grows d destination).nominal destination
    generalize (d.makeFolders destination).disk = middle at later ⊢
    rw [reach_withText]
    cases led' : middle.reach destination with
    | error cause => rfl
    | ok b =>
      rw [← reach_eq_nominal led] at origin
      rw [← later, ← reach_eq_nominal led'] at goal
      simp only [below_withText middle origin, putAll_withText middle goal,
        removeFolderAt_withText]

private theorem moveOnto_withText (goal : ¬d.nominal destination <+: place) (named : Path) :
    (d.withText place text).moveOnto source destination named =
      (d.moveOnto source destination named).withText place text := by
  have off : d.nominal source ≠ place := fun same => origin (same ▸ List.prefix_rfl)
  have off' : d.nominal destination ≠ place := fun same => goal (same ▸ List.prefix_rfl)
  have copied : ((d.withText place text).copyOnto source destination).next
        (fun d => d.unlink source) =
      ((d.copyOnto source destination).next fun d => d.unlink source).withText place text := by
    rw [copyOnto_withText d off off']
    exact next_withText (unlink_withText _ (by rwa [nominal_copyOnto]))
  unfold moveOnto
  rw [rename_withText d origin goal]
  cases d.rename source destination with
  | ok d' => rfl
  | error cause =>
    cases cause with
    | nullByte => rfl
    | _ =>
      simp only [Except.map, isFolder_withText, nominal_withText, find?_withText_isSome,
        copyFolderAway_withText d origin goal, copied]
      split_ifs <;> rfl

/-- A move comes out the same whatever the text of a file is, unless it moves from or to a place at
    or above that file. -/
theorem move_withText (goal : ¬d.nominal destination <+: place) :
    (d.withText place text).move source destination =
      (d.move source destination).withText place text := by
  unfold move
  simp only [isFolder_withText, samePlace_withText, rename_withText d origin goal,
    find?_withText_isSome, moveOnto_withText d origin goal]
  split_ifs with folder same
  · cases d.rename source destination <;> rfl
  · cases landed : innerPath? source destination with
    | none => rfl
    | some inner =>
      -- The move arrives below the folder at its destination, which keeps off the file.
      have deeper : ¬d.nominal inner <+: place := fun above =>
        goal ((nominal_innerPath landed d).trans above)
      simp only [moveOnto_withText d origin deeper]
      split <;> rfl
  · rfl

end

end Disk

end MusicFiling
