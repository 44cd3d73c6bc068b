import Disassembly.Disk.Basic
import Disassembly.Proofs.Outcome
import Disassembly.Proofs.Text.Split
import Mathlib.Tactic

/-!
# Following paths

A path is followed name by name, and every name is looked for in a directory
(`walk_cons_eq_ok_iff`). So a path that can be followed can still be followed on a disk with
further directories (`locate_mono`), and the files of one directory are at locations that differ
only in their last name (`exists_locate_of_child`).
-/

set_option autoImplicit false

namespace Disassembly.Disk

variable {d e : Disk}

/-! ## Steps -/

/-- The location that a name leads to from a directory. -/
def stepTo (l : Location) (name : Text) : Except AccessError Location :=
  if name = [] ∨ name = ['.'] then .ok l
  else if name = ['.', '.'] then .ok l.dropLast
  else if maxNameLength < (encode name).size then .error .nameTooLong
  else .ok (l ++ [name])

theorem walk_cons_of_directory {l : Location} (h : d.entry? l = some .directory) (name : Text)
    (rest : List Text) : d.walk l (name :: rest) = stepTo l name >>= fun k => d.walk k rest := by
  rw [walk, h, stepTo]
  simp only
  split
  next => rfl
  next =>
    split
    next => rfl
    next => split <;> rfl

/-- A name is looked for in a directory. -/
theorem walk_cons_eq_ok_iff {l m : Location} {name : Text} {rest : List Text} :
    d.walk l (name :: rest) = .ok m ↔
      d.entry? l = some .directory ∧ ∃ k, stepTo l name = .ok k ∧ d.walk k rest = .ok m := by
  constructor
  · intro h
    have hdirectory : d.entry? l = some .directory := by
      rw [walk] at h
      split at h
      next => cases h
      next => cases h
      next hentry => exact hentry
    rw [walk_cons_of_directory hdirectory] at h
    exact ⟨hdirectory, bind_eq_ok_iff.1 h⟩
  · rintro ⟨hdirectory, hstep⟩
    rw [walk_cons_of_directory hdirectory]
    exact bind_eq_ok_iff.2 hstep

theorem walk_append_eq_ok_iff {l m : Location} {xs ys : List Text} :
    d.walk l (xs ++ ys) = .ok m ↔ ∃ k, d.walk l xs = .ok k ∧ d.walk k ys = .ok m := by
  induction xs generalizing l with
  | nil =>
    constructor
    · intro h
      exact ⟨l, rfl, h⟩
    · rintro ⟨k, hk, h⟩
      rwa [Except.ok.inj hk]
  | cons name xs ih =>
    rw [List.cons_append, walk_cons_eq_ok_iff]
    constructor
    · rintro ⟨hdirectory, k, hk, h⟩
      obtain ⟨j, hj, h⟩ := ih.1 h
      exact ⟨j, walk_cons_eq_ok_iff.2 ⟨hdirectory, k, hk, hj⟩, h⟩
    · rintro ⟨j, hj, h⟩
      obtain ⟨hdirectory, k, hk, hj⟩ := walk_cons_eq_ok_iff.1 hj
      exact ⟨hdirectory, k, hk, ih.2 ⟨j, hj, h⟩⟩

/-- Names lead to the same location where there are further directories. -/
theorem walk_mono (h : ∀ l, d.entry? l = some .directory → e.entry? l = some .directory)
    {l m : Location} {names : List Text} (hwalk : d.walk l names = .ok m) :
    e.walk l names = .ok m := by
  induction names generalizing l with
  | nil => exact hwalk
  | cons name rest ih =>
    obtain ⟨hdirectory, k, hk, hrest⟩ := walk_cons_eq_ok_iff.1 hwalk
    exact walk_cons_eq_ok_iff.2 ⟨h l hdirectory, k, hk, ih hrest⟩

/-! ## Paths -/

/-- Where a path starts. -/
def startOf (d : Disk) (path : Text) : Location :=
  if path.head? = some '/' then [] else d.workingDirectory

theorem locate_eq_ok_iff {path : Text} {l : Location} :
    d.locate path = .ok l ↔ Char.ofNat 0 ∉ path ∧ path ≠ [] ∧ (encode path).size ≤ maxPathLength ∧
      d.walk (d.startOf path) (path.splitOn '/') = .ok l := by
  rw [locate]
  split
  next h => exact iff_of_false nofun fun hc => hc.1 h
  next hnull =>
    split
    next h => exact iff_of_false nofun fun hc => hc.2.1 (List.isEmpty_iff.1 h)
    next hne =>
      split
      next h => exact iff_of_false nofun fun hc => absurd h (not_lt.2 hc.2.2.1)
      next hsize =>
        have hne' : path ≠ [] := fun h => hne (List.isEmpty_iff.2 h)
        exact ⟨fun h => ⟨hnull, hne', not_lt.1 hsize, h⟩, fun h => h.2.2.2⟩

/-- A path leads to the same location where there are further directories. -/
theorem locate_mono (hstart : e.workingDirectory = d.workingDirectory)
    (h : ∀ l, d.entry? l = some .directory → e.entry? l = some .directory) {path : Text}
    {l : Location} (hlocate : d.locate path = .ok l) : e.locate path = .ok l := by
  obtain ⟨hnull, hne, hsize, hwalk⟩ := locate_eq_ok_iff.1 hlocate
  refine locate_eq_ok_iff.2 ⟨hnull, hne, hsize, ?_⟩
  rw [startOf, hstart]
  exact walk_mono h hwalk

theorem find_eq_ok_iff {path : Text} {entry : Entry} :
    d.find path = .ok entry ↔ ∃ l, d.locate path = .ok l ∧ d.entry? l = some entry := by
  rw [find]
  constructor
  · intro h
    obtain ⟨l, hl, h⟩ := bind_eq_ok_iff.1 h
    refine ⟨l, hl, ?_⟩
    cases hentry : d.entry? l with
    | none =>
      rw [hentry] at h
      cases h
    | some other =>
      rw [hentry] at h
      exact congrArg some (Except.ok.inj h)
  · rintro ⟨l, hl, hentry⟩
    refine bind_eq_ok_iff.2 ⟨l, hl, ?_⟩
    rw [hentry]
    rfl

theorem isDirectory_iff {path : Text} : d.isDirectory path = true ↔
    ∃ l, d.locate path = .ok l ∧ d.entry? l = some .directory := by
  rw [isDirectory, decide_eq_true_iff, ← find_eq_ok_iff]
  cases d.find path <;> simp [Except.toOption]

theorem readBytes_eq_ok_iff {path : Text} {bytes : ByteArray} :
    d.readBytes path = .ok bytes ↔ d.find path = .ok (.file bytes) := by
  rw [readBytes]
  cases hfind : d.find path with
  | error e => exact iff_of_false nofun nofun
  | ok entry =>
    cases entry with
    | file content =>
      constructor
      · intro h
        rw [Except.ok.inj h]
      · intro h
        cases h
        rfl
    | directory => exact iff_of_false nofun nofun

/-! ## Paths that are none -/

theorem walk_ne_nullCharacter (d : Disk) (l : Location) (names : List Text) :
    d.walk l names ≠ .error .nullCharacter := by
  induction names generalizing l with
  | nil => nofun
  | cons name rest ih =>
    rw [walk]
    split
    next => nofun
    next => nofun
    next =>
      split
      next => exact ih l
      next =>
        split
        next => exact ih l.dropLast
        next =>
          split
          next => nofun
          next => exact ih (l ++ [name])

theorem locate_eq_nullCharacter_iff {path : Text} :
    d.locate path = .error .nullCharacter ↔ Char.ofNat 0 ∈ path := by
  rw [locate]
  split
  next hnull => exact iff_of_true rfl hnull
  next hnull =>
    refine iff_of_false ?_ hnull
    split
    next => nofun
    next =>
      split
      next => nofun
      next => exact walk_ne_nullCharacter d _ _

/-- A file is refused for its path as a text only if the null character is in it. -/
theorem readBytes_eq_nullCharacter_iff {path : Text} :
    d.readBytes path = .error .nullCharacter ↔ Char.ofNat 0 ∈ path := by
  rw [← locate_eq_nullCharacter_iff (d := d), readBytes, find]
  cases d.locate path with
  | error e =>
    constructor
    · intro h
      cases h
      rfl
    · intro h
      cases h
      rfl
  | ok l =>
    refine iff_of_false (fun h => ?_) nofun
    cases hentry : d.entry? l with
    | none =>
      simp only [bind, Except.bind, hentry] at h
      cases h
    | some entry =>
      simp only [bind, Except.bind, hentry] at h
      cases entry with
      | file bytes => cases h
      | directory => cases h

/-! ## Texts in files -/

/-- A file is read as a text unless its bytes are not there or are no text. -/
theorem readText_eq_error_iff {path : Text} {e : ReadError} :
    d.readText path = .error e ↔
      (∃ err, d.readBytes path = .error err ∧ e = .access err) ∨
        ∃ bytes, d.readBytes path = .ok bytes ∧ decode? bytes = none ∧ e = .undecodable := by
  rw [readText]
  cases hbytes : d.readBytes path with
  | error err => simp [eq_comm]
  | ok bytes =>
    cases hdecode : decode? bytes with
    | none => simp [decodeText, hdecode, eq_comm]
    | some t => simp [decodeText, hdecode]

/-- A file is no text if and only if its bytes are not. -/
theorem readText_eq_undecodable_iff {path : Text} : d.readText path = .error .undecodable ↔
    ∃ bytes, d.readBytes path = .ok bytes ∧ decode? bytes = none := by
  rw [readText_eq_error_iff]
  constructor
  · rintro (⟨err, -, heq⟩ | ⟨bytes, hbytes, hnone, -⟩)
    · cases heq
    · exact ⟨bytes, hbytes, hnone⟩
  · rintro ⟨bytes, hbytes, hnone⟩
    exact Or.inr ⟨bytes, hbytes, hnone, rfl⟩

/-- What the file system does not answer for: a path that is none, and bytes that are no text. -/
theorem isSystem_eq_false_iff {path : Text} {e : ReadError} (hread : d.readText path = .error e) :
    e.isSystem = false ↔ Char.ofNat 0 ∈ path ∨ e = .undecodable := by
  rw [← readBytes_eq_nullCharacter_iff (d := d)]
  rcases readText_eq_error_iff.1 hread with ⟨err, hbytes, rfl⟩ | ⟨bytes, hbytes, -, rfl⟩
  · rw [hbytes]
    cases err <;> simp [ReadError.isSystem, AccessError.isSystem]
  · simp [ReadError.isSystem]

/-! ## The files of a directory -/

/-- A name as it stands between the slashes of a path. -/
def IsName (name : Text) : Prop :=
  name ≠ [] ∧ '/' ∉ name

/-- A path in normal form, as paths are when they have been read. -/
structure Path.Normal (p : Path) : Prop where
  root : ∀ c ∈ p.root, c = '/'
  names : ∀ name ∈ p.names, IsName name

theorem Path.normal_ofText (t : Text) : (Path.ofText t).Normal where
  root := by
    intro c hc
    rw [Path.ofText, Path.rootOf] at hc
    simp only at hc
    split at hc
    next => simpa using List.mem_takeWhile_imp hc
    next => exact List.mem_singleton.1 hc
  names := by
    intro name hname
    obtain ⟨hpiece, hne⟩ := List.mem_filter.1 hname
    rw [Bool.and_eq_true, Bool.not_eq_true', List.isEmpty_eq_false_iff] at hne
    exact ⟨hne.1, fun hc => (Text.mem_of_mem_splitOn hpiece hc).2 rfl⟩

theorem size_encode_append (s t : Text) :
    (encode (s ++ t)).size = (encode s).size + (encode t).size := by
  rw [encode, String.ofList_append, encode, encode]
  simp

theorem splitOn_append_slash {name : Text} (hname : '/' ∉ name) (t : Text) :
    (t ++ '/' :: name).splitOn '/' = t.splitOn '/' ++ [name] := by
  rw [← List.splitOn_eq_singleton hname, List.splitOn_eq_splitOnP, List.splitOn_eq_splitOnP,
    List.splitOn_eq_splitOnP, List.splitOnP_append_cons t name rfl]

/-- The last name of a path is looked for in the directory that the names before it lead to. -/
theorem walk_of_locate_append_slash {t name : Text} (hname : '/' ∉ name) {l : Location}
    (h : d.locate (t ++ '/' :: name) = .ok l) :
    ∃ k, d.walk (d.startOf (t ++ '/' :: name)) (t.splitOn '/') = .ok k ∧
      d.entry? k = some .directory ∧ stepTo k name = .ok l := by
  obtain ⟨-, -, -, hwalk⟩ := locate_eq_ok_iff.1 h
  rw [splitOn_append_slash hname, walk_append_eq_ok_iff] at hwalk
  obtain ⟨k, hk, hlast⟩ := hwalk
  obtain ⟨hdirectory, m, hm, hl⟩ := walk_cons_eq_ok_iff.1 hlast
  refine ⟨k, hk, hdirectory, ?_⟩
  rwa [Except.ok.inj hl] at hm

/-- The start of a path that can be followed is no longer than a path may be, and has no character
that a path cannot have. -/
theorem locate_of_append {s t : Text} (hs : s ≠ []) {l k : Location}
    (h : d.locate (s ++ t) = .ok l) (hwalk : d.walk (d.startOf s) (s.splitOn '/') = .ok k) :
    d.locate s = .ok k := by
  obtain ⟨hnull, -, hsize, -⟩ := locate_eq_ok_iff.1 h
  rw [size_encode_append] at hsize
  exact locate_eq_ok_iff.2
    ⟨fun hc => hnull (List.mem_append_left _ hc), hs, by omega, hwalk⟩

theorem startOf_append {s : Text} (hs : s ≠ []) (t : Text) : d.startOf (s ++ t) = d.startOf s := by
  rw [startOf, List.head?_append_of_ne_nil s hs, startOf]

namespace Path

variable {p : Path}

theorem print_eq_of_root (hnames : p.names = []) (hroot : p.root ≠ []) : p.print = p.root := by
  rw [print, hnames]
  simp [hroot]

theorem print_child_of_root (hnames : p.names = []) {name : Text} (hname : name ≠ []) :
    (p.child name).print = p.root ++ name := by
  rw [print, child, hnames]
  simp [hname]

theorem Normal.print_child (hp : p.Normal) (hnames : p.names ≠ []) (name : Text) :
    p.print ≠ [] ∧ (p.child name).print = p.print ++ '/' :: name := by
  obtain ⟨first, rest, hcons⟩ := List.exists_cons_of_ne_nil hnames
  have hfirst : first ≠ [] := (hp.names first (hcons ▸ List.mem_cons_self)).1
  have hne : p.root ++ ['/'].intercalate p.names ≠ [] := by
    rw [hcons]
    cases rest with
    | nil => simp [hfirst]
    | cons second rest => simp [List.intercalate_cons_cons]
  have hprint : p.print = p.root ++ ['/'].intercalate p.names := by
    rw [print]
    exact if_neg fun h => hne (List.isEmpty_iff.1 h)
  refine ⟨hprint ▸ hne, ?_⟩
  have hnext : ['/'].intercalate (p.names ++ [name]) =
      ['/'].intercalate p.names ++ '/' :: name := by
    rw [Text.intercalate_append_cons, Text.flatMap_append_sep hnames, List.intercalate_singleton,
      List.append_assoc]
    rfl
  rw [hprint, print, child, hnext, ← List.append_assoc]
  exact if_neg (by simp)

end Path

/-- The path of a file in a directory leads to its name in the location of the directory. -/
theorem exists_locate_of_child {p : Path} {name : Text} {l : Location} (hp : p.Normal)
    (hname : IsName name) (h : d.locate (p.child name).print = .ok l) :
    ∃ k, d.locate p.print = .ok k ∧ d.entry? k = some .directory ∧ stepTo k name = .ok l := by
  by_cases hnames : p.names = []
  · rw [Path.print_child_of_root hnames hname.1] at h
    cases hroot : p.root.getLast? with
    | none =>
      -- without a root, the name is looked for in the working directory
      rw [List.getLast?_eq_none_iff.1 hroot, List.nil_append] at h
      obtain ⟨-, -, -, hwalk⟩ := locate_eq_ok_iff.1 h
      have hstart : d.startOf name = d.workingDirectory :=
        if_neg fun hc => hname.2 (List.mem_of_head? hc)
      rw [List.splitOn_eq_singleton hname.2, hstart] at hwalk
      obtain ⟨hdirectory, k, hk, hl⟩ := walk_cons_eq_ok_iff.1 hwalk
      rw [Except.ok.inj hl] at hk
      have hprint : p.print = ['.'] := by
        rw [Path.print, hnames, List.getLast?_eq_none_iff.1 hroot]
        rfl
      rw [hprint]
      refine ⟨d.workingDirectory, ?_, hdirectory, hk⟩
      exact locate_eq_ok_iff.2 ⟨by decide, by decide, by decide,
        walk_cons_eq_ok_iff.2 ⟨hdirectory, _, rfl, rfl⟩⟩
    | some c =>
      obtain ⟨r, hr⟩ := List.getLast?_eq_some_iff.1 hroot
      obtain rfl := hp.root c (List.mem_of_getLast? hroot)
      have hne : p.root ≠ [] := by simp [hr]
      have hslash : p.root ++ name = r ++ '/' :: name := by simp [hr]
      obtain ⟨k, hk, hdirectory, hstep⟩ := walk_of_locate_append_slash hname.2 (hslash ▸ h)
      rw [← hslash, startOf_append hne] at hk
      rw [Path.print_eq_of_root hnames hne]
      refine ⟨k, locate_of_append hne h ?_, hdirectory, hstep⟩
      rw [hr, splitOn_append_slash (by simp), walk_append_eq_ok_iff, ← hr]
      exact ⟨k, hk, walk_cons_eq_ok_iff.2 ⟨hdirectory, k, rfl, rfl⟩⟩
  · obtain ⟨hne, hprint⟩ := hp.print_child hnames name
    rw [hprint] at h
    obtain ⟨k, hk, hdirectory, hstep⟩ := walk_of_locate_append_slash hname.2 h
    rw [startOf_append hne] at hk
    exact ⟨k, locate_of_append hne h hk, hdirectory, hstep⟩

theorem isDirectory_of_child {p : Path} {name : Text} {l : Location} (hp : p.Normal)
    (hname : IsName name) (h : d.locate (p.child name).print = .ok l) :
    d.isDirectory p.print = true := by
  obtain ⟨k, hk, hdirectory, -⟩ := exists_locate_of_child hp hname h
  exact isDirectory_iff.2 ⟨k, hk, hdirectory⟩

theorem stepTo_eq_ok {l m : Location} {name : Text} (hdot : name ≠ ['.'])
    (hdots : name ≠ ['.', '.']) (hname : IsName name) (h : stepTo l name = .ok m) :
    m = l ++ [name] := by
  rw [stepTo, if_neg (by simp [hname.1, hdot]), if_neg hdots] at h
  split at h
  next => cases h
  next => exact (Except.ok.inj h).symm

end Disassembly.Disk
