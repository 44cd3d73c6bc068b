import Disassembly.Proofs.Disk.Path
import Mathlib.Tactic

/-!
# Changes of the disk

Making directories only adds directories (`grows_makeDirectories`), and it comes to an end without
an error if and only if the directory is there afterwards (`makeDirectories_eq_none_iff`). Writing
puts bytes into one file (`Puts`): the whole text if there is no error (`puts_of_write`), and the
beginning of it if the medium takes no more (`puts_of_fill_error`). The text is then read as it was
written (`Puts.readBytes`, `readText_of_readBytes`).
-/

set_option autoImplicit false

namespace Disassembly.Disk

variable {d e f : Disk} {path : Text}

theorem entry?_set (d : Disk) (l k : Location) (entry : Entry) :
    Disk.entry? (d.set l entry) k = if k = l then some entry else d.entry? k := rfl

/-- Two changes end with an error if the first one does or, after it, the second one does. -/
theorem andThen_eq_iff {change : Change} {next : Disk → Change} {err : AccessError} :
    change.andThen next = ⟨e, some err⟩ ↔
      change = ⟨e, some err⟩ ∨ ∃ f, change = ⟨f, none⟩ ∧ next f = ⟨e, some err⟩ := by
  obtain ⟨f, error?⟩ := change
  rw [Change.andThen]
  cases error? with
  | none => simp
  | some other => simp

theorem andThen_eq_ok_iff {change : Change} {next : Disk → Change} :
    change.andThen next = ⟨e, none⟩ ↔ ∃ f, change = ⟨f, none⟩ ∧ next f = ⟨e, none⟩ := by
  obtain ⟨f, error?⟩ := change
  rw [Change.andThen]
  cases error? with
  | none => simp
  | some other => simp

theorem Change.eq_of_eq_none {change : Change} (h : change.error? = none) :
    change = ⟨change.disk, none⟩ := by
  rw [← h]

theorem andThen_of_eq_none {change : Change} (h : change.error? = none) (next : Disk → Change) :
    change.andThen next = next change.disk := by
  rw [Change.andThen, h]

theorem andThen_of_ne_none {change : Change} (h : change.error? ≠ none) (next : Disk → Change) :
    change.andThen next = change := by
  obtain ⟨err, herr⟩ := Option.ne_none_iff_exists'.1 h
  rw [Change.andThen, herr]

/-! ## Further directories -/

/-- The second disk has all entries of the first one, and perhaps further directories. -/
structure Grows (d e : Disk) : Prop where
  workingDirectory : e.workingDirectory = d.workingDirectory
  medium : e.medium = d.medium
  entry : ∀ l, e.entry? l = d.entry? l ∨ d.entry? l = none ∧ e.entry? l = some .directory

namespace Grows

theorem refl (d : Disk) : Grows d d :=
  ⟨rfl, rfl, fun _ => Or.inl rfl⟩

theorem trans (h : Grows d e) (h' : Grows e f) : Grows d f := by
  refine ⟨h'.workingDirectory.trans h.workingDirectory, h'.medium.trans h.medium, fun l => ?_⟩
  rcases h'.entry l with hsame | ⟨hnone, hnew⟩
  · rw [hsame]
    exact h.entry l
  · rcases h.entry l with hsame | ⟨hnone', -⟩
    · exact Or.inr ⟨hsame ▸ hnone, hnew⟩
    · exact Or.inr ⟨hnone', hnew⟩

theorem entry_eq (h : Grows d e) {l : Location} {entry : Entry}
    (hentry : d.entry? l = some entry) : e.entry? l = some entry := by
  rcases h.entry l with hsame | ⟨hnone, -⟩
  · rwa [hsame]
  · rw [hentry] at hnone
    cases hnone

theorem locate (h : Grows d e) {l : Location} (hl : d.locate path = .ok l) :
    e.locate path = .ok l :=
  locate_mono h.workingDirectory (fun _ hd => h.entry_eq hd) hl

theorem isDirectory (h : Grows d e) (hd : d.isDirectory path = true) :
    e.isDirectory path = true := by
  obtain ⟨l, hl, hentry⟩ := isDirectory_iff.1 hd
  exact isDirectory_iff.2 ⟨l, h.locate hl, h.entry_eq hentry⟩

end Grows

theorem grows_set {l : Location} (h : d.entry? l = none) : Grows d (d.set l .directory) := by
  refine ⟨rfl, rfl, fun k => ?_⟩
  rw [entry?_set]
  split
  next heq => exact Or.inr ⟨heq ▸ h, rfl⟩
  next => exact Or.inl rfl

/-! ## Making one directory -/

theorem makeDirectory_eq_ok_iff : d.makeDirectory path = .ok e ↔
    ∃ l, d.locate path = .ok l ∧ d.entry? l = none ∧ d.medium.admits l = true ∧
      e = d.set l .directory := by
  rw [makeDirectory]
  constructor
  · intro h
    obtain ⟨l, hl, h⟩ := bind_eq_ok_iff.1 h
    split at h
    next => cases h
    next hnone =>
      split at h
      next => cases h
      next hadmits =>
        rw [Bool.not_eq_true, Bool.not_eq_false'] at hadmits
        exact ⟨l, hl, Option.not_isSome_iff_eq_none.1 hnone, hadmits, (Except.ok.inj h).symm⟩
  · rintro ⟨l, hl, hnone, hadmits, rfl⟩
    refine bind_eq_ok_iff.2 ⟨l, hl, ?_⟩
    rw [hnone, hadmits]
    rfl

theorem makeDirectory_of_isDirectory (h : d.isDirectory path = true) :
    d.makeDirectory path = .error .alreadyExists := by
  obtain ⟨l, hl, hentry⟩ := isDirectory_iff.1 h
  rw [makeDirectory, hl]
  simp only [bind, Except.bind, hentry]
  rfl

theorem ensureDirectory_of_isDirectory (h : d.isDirectory path = true) :
    d.ensureDirectory path = ⟨d, none⟩ := by
  rw [ensureDirectory, makeDirectory_of_isDirectory h]
  simp [AccessError.isSystem, h]

theorem grows_ensureDirectory (d : Disk) (path : Text) : Grows d (d.ensureDirectory path).disk := by
  rw [ensureDirectory]
  cases hmake : d.makeDirectory path with
  | error err => exact .refl d
  | ok made =>
    obtain ⟨l, -, hnone, -, rfl⟩ := makeDirectory_eq_ok_iff.1 hmake
    exact grows_set hnone

/-- There is no error if and only if the directory is there afterwards. -/
theorem ensureDirectory_eq_none_iff : (d.ensureDirectory path).error? = none ↔
    (d.ensureDirectory path).disk.isDirectory path = true := by
  by_cases hdirectory : d.isDirectory path = true
  · rw [ensureDirectory_of_isDirectory hdirectory]
    exact iff_of_true rfl hdirectory
  · cases hmake : d.makeDirectory path with
    | error err =>
      rw [ensureDirectory, hmake]
      simp [hdirectory]
    | ok made =>
      rw [ensureDirectory, hmake]
      obtain ⟨l, hl, hnone, -, rfl⟩ := makeDirectory_eq_ok_iff.1 hmake
      refine iff_of_true rfl (isDirectory_iff.2 ⟨l, (grows_set hnone).locate hl, ?_⟩)
      rw [entry?_set, if_pos rfl]

/-! ## Making all directories of a path -/

section Directories

variable {root : Text} {names : List Text}

theorem grows_makeDirectories (d : Disk) (root : Text) (names : List Text) :
    Grows d (d.makeDirectories root names).disk := by
  induction names with
  | nil => exact grows_ensureDirectory d _
  | cons name above ih =>
    rw [makeDirectories]
    simp only
    split
    next => exact grows_ensureDirectory d _
    next =>
      split
      next => exact ih.trans (grows_ensureDirectory _ _)
      next => exact ih.trans (grows_ensureDirectory _ _)
      next => exact ih

/-- The path of the directory in which the first of the reversed names is looked for. -/
theorem normal_above {name : Text} {above : List Text}
    (h : (⟨root, (name :: above).reverse⟩ : Path).Normal) :
    (⟨root, above.reverse⟩ : Path).Normal ∧ IsName name ∧
      (⟨root, (name :: above).reverse⟩ : Path) = (⟨root, above.reverse⟩ : Path).child name := by
  have hnames : ∀ x ∈ name :: above, IsName x := fun x hx => h.names x (List.mem_reverse.2 hx)
  rw [List.forall_mem_cons] at hnames
  refine ⟨⟨h.root, fun x hx => hnames.2 x (List.mem_reverse.1 hx)⟩, hnames.1, ?_⟩
  rw [Path.child, List.reverse_cons]

/-- Above a directory there is a directory. -/
theorem isDirectory_above {name : Text} {above : List Text}
    (h : (⟨root, (name :: above).reverse⟩ : Path).Normal)
    (hdirectory : d.isDirectory (Path.print ⟨root, (name :: above).reverse⟩) = true) :
    d.isDirectory (Path.print ⟨root, above.reverse⟩) = true := by
  obtain ⟨habove, hname, hchild⟩ := normal_above h
  rw [hchild] at hdirectory
  obtain ⟨l, hl, -⟩ := isDirectory_iff.1 hdirectory
  exact isDirectory_of_child habove hname hl

/-- Where the directory is there already, nothing is changed. -/
theorem makeDirectories_of_isDirectory (h : (⟨root, names.reverse⟩ : Path).Normal)
    (hdirectory : d.isDirectory (Path.print ⟨root, names.reverse⟩) = true) :
    d.makeDirectories root names = ⟨d, none⟩ := by
  cases names with
  | nil => exact ensureDirectory_of_isDirectory hdirectory
  | cons name above =>
    have hcontains : d.contains (Path.print ⟨root, above.reverse⟩) = true := by
      obtain ⟨l, hl, hentry⟩ := isDirectory_iff.1 (isDirectory_above h hdirectory)
      rw [contains, find_eq_ok_iff.2 ⟨l, hl, hentry⟩]
      rfl
    rw [makeDirectories]
    simp only [hcontains, Bool.or_true, if_true]
    exact ensureDirectory_of_isDirectory hdirectory

/-- There is no error if and only if the directory is there afterwards. -/
theorem makeDirectories_eq_none_iff (h : (⟨root, names.reverse⟩ : Path).Normal) :
    (d.makeDirectories root names).error? = none ↔
      (d.makeDirectories root names).disk.isDirectory (Path.print ⟨root, names.reverse⟩) =
        true := by
  induction names with
  | nil => exact ensureDirectory_eq_none_iff
  | cons name above ih =>
    rw [makeDirectories]
    simp only
    split
    next => exact ensureDirectory_eq_none_iff
    next =>
      split
      next => exact ensureDirectory_eq_none_iff
      next => exact ensureDirectory_eq_none_iff
      next err hother =>
        -- the directory above could not be made, so there is nothing below it
        refine iff_of_false (by simp [hother]) fun hdirectory => ?_
        have hnone := (ih (normal_above h).1).2 (isDirectory_above h hdirectory)
        rw [hnone] at hother
        cases hother

end Directories

/-! ## Files -/

/-- A file is opened unless its path cannot be followed, or leads to a directory or to a location
that the medium refuses; it is empty then. -/
theorem openFile_eq_ok_iff {l : Location} : d.openFile path = .ok (l, e) ↔
    d.locate path = .ok l ∧ d.entry? l ≠ some .directory ∧ d.medium.admits l = true ∧
      e = d.set l (.file .empty) := by
  rw [openFile]
  constructor
  · intro h
    obtain ⟨k, hk, h⟩ := bind_eq_ok_iff.1 h
    split at h
    next => cases h
    next hentry =>
      split at h
      next => cases h
      next hadmits =>
        rw [Bool.not_eq_true, Bool.not_eq_false'] at hadmits
        cases h
        exact ⟨hk, hentry, hadmits, rfl⟩
  · rintro ⟨hl, hentry, hadmits, rfl⟩
    refine bind_eq_ok_iff.2 ⟨l, hl, ?_⟩
    rw [if_neg hentry, hadmits]
    rfl

theorem fill_eq_ok_iff {l : Location} {bytes : ByteArray} : d.fill l bytes = ⟨e, none⟩ ↔
    d.medium.breakOff? l bytes = none ∧ d.set l (.file bytes) = e := by
  rw [fill]
  cases d.medium.breakOff? l bytes with
  | none => simp
  | some n => simp

theorem fill_eq_error_iff {l : Location} {bytes : ByteArray} {err : AccessError} :
    d.fill l bytes = ⟨e, some err⟩ ↔
      err = .brokenOff ∧
        ∃ n, d.medium.breakOff? l bytes = some n ∧ d.set l (.file (bytes.extract 0 n)) = e := by
  rw [fill]
  cases d.medium.breakOff? l bytes with
  | none => simp
  | some n => simp [and_comm, eq_comm]

/-- Writing fails if the file cannot be opened, which leaves the disk alone, or if it breaks off. -/
theorem write_eq_iff {t : Text} {err : AccessError} : d.write path t = ⟨e, some err⟩ ↔
    d.openFile path = .error err ∧ d = e ∨
      ∃ l opened, d.openFile path = .ok (l, opened) ∧
        opened.fill l (encode t) = ⟨e, some err⟩ := by
  rw [write]
  cases d.openFile path with
  | error other => simp [and_comm]
  | ok opening =>
    obtain ⟨l, opened⟩ := opening
    simp

/-- What an entry held does not matter once it is replaced. -/
theorem set_set (d : Disk) (l : Location) (a b : Entry) : (d.set l a).set l b = d.set l b := by
  rw [set, set, set, Disk.mk.injEq]
  refine ⟨funext fun k => ?_, rfl, rfl⟩
  by_cases h : k = l
  · simp only [if_pos h]
  · simp only [if_neg h]

/-- The second disk is the first one with bytes in one file, which may be new. -/
def Puts (d : Disk) (path : Text) (bytes : ByteArray) (e : Disk) : Prop :=
  ∃ l, d.locate path = .ok l ∧ d.entry? l ≠ some .directory ∧ d.set l (.file bytes) = e

namespace Puts

variable {other : Text} {bytes : ByteArray}

/-- A file that is written is no directory on any path. -/
theorem locate (h : Puts d path bytes e) {m : Location} (hm : d.locate other = .ok m) :
    e.locate other = .ok m := by
  obtain ⟨l, -, hentry, rfl⟩ := h
  -- a path leads through directories only, and all of them are still there
  have hkept : ∀ k, d.entry? k = some .directory →
      Disk.entry? (d.set l (.file bytes)) k = some .directory := by
    intro k hk
    have hkl : k ≠ l := fun heq => hentry (heq ▸ hk)
    rwa [entry?_set, if_neg hkl]
  exact locate_mono (d := d) (e := d.set l (.file bytes)) rfl hkept hm

/-- What was put into a file is read there. -/
theorem readBytes (h : Puts d path bytes e) : e.readBytes path = .ok bytes := by
  obtain ⟨l, hl, hentry, rfl⟩ := h
  refine readBytes_eq_ok_iff.2 (find_eq_ok_iff.2 ⟨l, locate ⟨l, hl, hentry, rfl⟩ hl, ?_⟩)
  rw [entry?_set, if_pos rfl]

/-- Nothing is changed elsewhere. -/
theorem entry?_eq (h : Puts d path bytes e) {l : Location} (hl : e.locate path ≠ .ok l) :
    e.entry? l = d.entry? l := by
  obtain ⟨k, hk, hentry, rfl⟩ := h
  have hne : l ≠ k := by
    rintro rfl
    exact hl (locate ⟨l, hk, hentry, rfl⟩ hk)
  rw [entry?_set, if_neg hne]

/-- The other files are as they were. -/
theorem readBytes_of_ne (h : Puts d path bytes e) {content : ByteArray}
    (hne : ∀ l, e.locate path = .ok l → e.locate other ≠ .ok l)
    (hread : d.readBytes other = .ok content) : e.readBytes other = .ok content := by
  obtain ⟨m, hm, hfile⟩ := find_eq_ok_iff.1 (readBytes_eq_ok_iff.1 hread)
  have hother := h.locate hm
  refine readBytes_eq_ok_iff.2 (find_eq_ok_iff.2 ⟨m, hother, ?_⟩)
  rwa [h.entry?_eq fun hpath => hne m hpath hother]

end Puts

/-- A file that could be opened and filled holds all bytes. -/
theorem puts_of_fill {l : Location} {opened : Disk} {bytes : ByteArray}
    (hopen : d.openFile path = .ok (l, opened)) (h : opened.fill l bytes = ⟨e, none⟩) :
    Puts d path bytes e := by
  obtain ⟨hl, hentry, -, rfl⟩ := openFile_eq_ok_iff.1 hopen
  obtain ⟨-, rfl⟩ := fill_eq_ok_iff.1 h
  exact ⟨l, hl, hentry, (set_set d l _ _).symm⟩

/-- A file that could be opened but not filled holds the bytes at the beginning. -/
theorem puts_of_fill_error {l : Location} {opened : Disk} {bytes : ByteArray} {err : AccessError}
    (hopen : d.openFile path = .ok (l, opened)) (h : opened.fill l bytes = ⟨e, some err⟩) :
    ∃ n, Puts d path (bytes.extract 0 n) e := by
  obtain ⟨hl, hentry, -, rfl⟩ := openFile_eq_ok_iff.1 hopen
  obtain ⟨-, n, -, rfl⟩ := fill_eq_error_iff.1 h
  exact ⟨n, l, hl, hentry, (set_set d l _ _).symm⟩

/-- What was written without an error is in the file as a whole. -/
theorem puts_of_write {t : Text} (h : d.write path t = ⟨e, none⟩) : Puts d path (encode t) e := by
  rw [write] at h
  cases hopen : d.openFile path with
  | error err =>
    rw [hopen] at h
    cases h
  | ok opening =>
    rw [hopen] at h
    exact puts_of_fill hopen h

theorem decode?_encode (t : Text) : decode? (encode t) = some t := by
  have hvalid : (encode t).IsValidUTF8 := (String.ofList t).isValidUTF8
  rw [decode?, String.fromUTF8?, dif_pos hvalid]
  exact congrArg some String.toList_ofList

/-- A file with the bytes of a text is read as that text, but for its line breaks. -/
theorem readText_of_readBytes {t : Text} (h : d.readBytes path = .ok (encode t)) :
    d.readText path = .ok (Text.unifyBreaks t) := by
  rw [readText, h]
  simp only
  rw [decodeText, decode?_encode]
  rfl

end Disassembly.Disk
