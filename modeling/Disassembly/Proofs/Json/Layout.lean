import Disassembly.Proofs.Json.Quoting
import Disassembly.Proofs.Numeral

/-!
# The layout of a JSON text

The text of a value tells the value, and with it the place where the text of the value ends
(`determined_pretty`). Indentation is not needed for this: behind an item stands a comma or a break,
and these two say whether another item follows (`behind_inj`).

`Determined` is what is proved of every part of the layout. Of the character behind a value nothing
is asked but that it is no digit, since a numeral has no end of its own. Numbers that are kept as
they are written are left out (`Datum.Exact`), for these may be spelled like any other value.
-/

set_option autoImplicit false

namespace Disassembly

/-- Every number in the value is an integer. -/
inductive Datum.Exact : Datum Text → Prop
  | null : Exact .null
  | bool (b : Bool) : Exact (.bool b)
  | int (n : Int) : Exact (.int n)
  | text (t : Text) : Exact (.text t)
  | list {items : List (Datum Text)} (h : ∀ d ∈ items, Exact d) : Exact (.list items)
  | record {fields : List (Text × Datum Text)} (h : ∀ field ∈ fields, Exact field.2) :
      Exact (.record fields)

namespace Json

open Text

/-! ## What is determined by its text -/

/-- The text does not go on with a digit. -/
def NoDigitHead (t : Text) : Prop :=
  ∀ c ∈ t.head?, c.isDigit = false

theorem noDigitHead_nil : NoDigitHead [] := by
  intro c hc
  cases hc

theorem noDigitHead_cons {c : Char} (h : c.isDigit = false) (t : Text) : NoDigitHead (c :: t) := by
  rintro d ⟨⟩
  exact h

theorem noDigitHead_newline (depth : Nat) (t : Text) : NoDigitHead (newline depth ++ t) :=
  noDigitHead_cons (by decide) _

section Determined

variable {α : Type} {P : α → Prop} {part : α → Text} {r s : Text}

/-- In front of anything but a digit, the text that is written for `a` is the start of no text that
begins with another value of the class. -/
def Determined (P : α → Prop) (write : α → Text) (a : α) : Prop :=
  ∀ b, P b → ∀ r s, NoDigitHead r → NoDigitHead s → write a ++ r = write b ++ s → a = b ∧ r = s

/-! ## Parts on lines of their own -/

/-- Parts at the given depth, each on a line of its own. -/
def rows (depth : Nat) (part : α → Text) : List α → Text
  | [] => []
  | a :: rest => newline depth ++ part a ++ comma rest ++ rows depth part rest

/-- Parts inside brackets that stand at the given depth. -/
def block (depth : Nat) (opening closing : Char) (part : α → Text) : List α → Text
  | [] => [opening, closing]
  | a :: rest => opening :: rows (depth + 1) part (a :: rest) ++ newline depth ++ [closing]

/-- What stands behind a part inside brackets at the given depth: the parts that follow it, the
start of the last line, and the text behind that. -/
def behind (depth : Nat) (part : α → Text) (rest : List α) (r : Text) : Text :=
  comma rest ++ (rows (depth + 1) part rest ++ (newline depth ++ r))

theorem noDigitHead_behind (depth : Nat) (rest : List α) (r : Text) :
    NoDigitHead (behind depth part rest r) := by
  cases rest with
  | nil => exact noDigitHead_newline depth r
  | cons a rest => exact noDigitHead_cons (by decide) _

theorem behind_cons (depth : Nat) (a : α) (rest : List α) (r : Text) :
    behind depth part (a :: rest) r =
      ',' :: (newline (depth + 1) ++ (part a ++ behind depth part rest r)) := by
  simp [behind, rows, comma]

/-- What stands behind a part tells which parts follow, and where the last line begins. -/
theorem behind_inj {depth : Nat} {xs ys : List α} (hxs : ∀ a ∈ xs, Determined P part a)
    (hys : ∀ b ∈ ys, P b) (h : behind depth part xs r = behind depth part ys s) :
    xs = ys ∧ r = s := by
  induction xs generalizing ys with
  | nil =>
    cases ys with
    | nil => exact ⟨rfl, List.append_cancel_left h⟩
    | cons b ys =>
      -- the last line begins with a break, and where a part follows there is a comma
      rw [behind_cons] at h
      cases h
  | cons a xs ih =>
    cases ys with
    | nil =>
      rw [behind_cons] at h
      cases h
    | cons b ys =>
      -- the first parts begin at the same place, so they and what is behind them are the same
      rw [behind_cons, behind_cons] at h
      have hparts := List.append_cancel_left (List.cons.inj h).2
      obtain ⟨rfl, hbehind⟩ := hxs a List.mem_cons_self b (hys b List.mem_cons_self) _ _
        (noDigitHead_behind depth xs r) (noDigitHead_behind depth ys s) hparts
      obtain ⟨rfl, hrest⟩ := ih (fun c hc => hxs c (List.mem_cons_of_mem a hc))
        (fun c hc => hys c (List.mem_cons_of_mem a hc)) hbehind
      exact ⟨rfl, hrest⟩

theorem block_cons_append (depth : Nat) (opening closing : Char) (a : α) (rest : List α)
    (r : Text) :
    block depth opening closing part (a :: rest) ++ r =
      opening :: (newline (depth + 1) ++ (part a ++ behind depth part rest (closing :: r))) := by
  simp [block, rows, behind]

/-- Brackets determine what is inside them if each part is determined by its text. -/
theorem determined_block {depth : Nat} {opening closing : Char} (hclosing : closing ≠ '\n')
    {xs : List α} (hxs : ∀ a ∈ xs, Determined P part a) :
    Determined (fun ys => ∀ b ∈ ys, P b) (block depth opening closing part) xs := by
  intro ys hys r s _ _ h
  cases xs with
  | nil =>
    cases ys with
    | nil => exact ⟨rfl, List.append_cancel_left h⟩
    | cons b ys =>
      -- behind the bracket stands the other one on this side, and a break on that side
      rw [block_cons_append] at h
      exact absurd (List.cons.inj (List.cons.inj h).2).1 hclosing
  | cons a xs =>
    cases ys with
    | nil =>
      rw [block_cons_append] at h
      exact absurd (List.cons.inj (List.cons.inj h).2).1.symm hclosing
    | cons b ys =>
      -- with a comma in place of the bracket, all parts stand behind another one
      rw [block_cons_append, block_cons_append, List.cons_inj_right,
        ← List.cons_inj_right ',', ← behind_cons, ← behind_cons] at h
      obtain ⟨hparts, hrest⟩ := behind_inj hxs hys h
      exact ⟨hparts, (List.cons.inj hrest).2⟩

end Determined

/-- A field is determined by its text if its value is. -/
theorem determined_field {P : Datum Text → Prop} {write : Datum Text → Text}
    {field : Text × Datum Text} (h : Determined P write field.2) :
    Determined (fun f => P f.2) (fun f => writeString f.1 ++ [':', ' '] ++ write f.2) field := by
  intro other hother r s hr hs heq
  simp only [List.append_assoc] at heq
  obtain ⟨hname, hvalues⟩ := writeString_append_inj heq
  obtain ⟨hvalue, hrest⟩ := h other.2 hother r s hr hs (List.append_cancel_left hvalues)
  exact ⟨Prod.ext hname hvalue, hrest⟩

/-! ## Values -/

theorem prettyItems_eq_rows (depth : Nat) (items : List (Datum Text)) :
    prettyItems depth items = rows depth (pretty depth) items := by
  induction items with
  | nil => rw [prettyItems, rows]
  | cons d rest ih => rw [prettyItems, rows, ih]

theorem prettyFields_eq_rows (depth : Nat) (fields : List (Text × Datum Text)) :
    prettyFields depth fields =
      rows depth (fun f => writeString f.1 ++ [':', ' '] ++ pretty depth f.2) fields := by
  induction fields with
  | nil => rw [prettyFields, rows]
  | cons field rest ih =>
    obtain ⟨name, d⟩ := field
    rw [prettyFields, rows, ih]
    simp only [List.append_assoc]

theorem pretty_list (depth : Nat) (items : List (Datum Text)) :
    pretty depth (.list items) = block depth '[' ']' (pretty (depth + 1)) items := by
  cases items with
  | nil => rw [pretty, block]
  | cons d rest => rw [pretty, block, prettyItems_eq_rows]

theorem pretty_record (depth : Nat) (fields : List (Text × Datum Text)) :
    pretty depth (.record fields) =
      block depth (Char.ofNat 0x7B) (Char.ofNat 0x7D)
        (fun f => writeString f.1 ++ [':', ' '] ++ pretty (depth + 1) f.2) fields := by
  cases fields with
  | nil => rw [pretty, block]
  | cons field rest => rw [pretty, block, prettyFields_eq_rows]

/-- The sorts of values that are told apart by the first character of their texts. -/
inductive Kind where
  | null
  | bool
  | number
  | text
  | list
  | record

/-- The sort of a value. -/
def Kind.of : Datum Text → Kind
  | .null => .null
  | .bool _ => .bool
  | .int _ => .number
  | .real _ => .number
  | .text _ => .text
  | .list _ => .list
  | .record _ => .record

/-- The sort of the values whose texts begin with a character. -/
def Kind.ofHead (c : Char) : Kind :=
  if c = 'n' then .null
  else if c = 't' ∨ c = 'f' then .bool
  else if c = '"' then .text
  else if c = '[' then .list
  else if c = Char.ofNat 0x7B then .record
  else .number

theorem Kind.ofHead_of_mem_print {n : Int} {c : Char} (h : c ∈ Numeral.print n) :
    Kind.ofHead c = .number := by
  have hne : ∀ d : Char, d.isDigit = false → d ≠ '-' → c ≠ d := by
    rintro d hdigit hminus rfl
    rcases Numeral.mem_print h with hc | hc
    · exact Bool.false_ne_true (hdigit.symm.trans hc)
    · exact hminus hc
  simp [Kind.ofHead, hne 'n' (by decide) (by decide), hne 't' (by decide) (by decide),
    hne 'f' (by decide) (by decide), hne '"' (by decide) (by decide),
    hne '[' (by decide) (by decide), hne (Char.ofNat 0x7B) (by decide) (by decide)]

/-- The text of a value begins with a character of its sort. -/
theorem exists_pretty_eq_cons {d : Datum Text} (hd : d.Exact) (depth : Nat) :
    ∃ c rest, pretty depth d = c :: rest ∧ Kind.ofHead c = Kind.of d := by
  cases hd with
  | null => exact ⟨_, _, rfl, rfl⟩
  | bool b => cases b <;> exact ⟨_, _, rfl, rfl⟩
  | int n =>
    obtain ⟨c, rest, hprint⟩ := List.exists_cons_of_ne_nil (Numeral.print_ne_nil n)
    refine ⟨c, rest, ?_, Kind.ofHead_of_mem_print (hprint ▸ List.mem_cons_self)⟩
    rw [pretty, hprint]
  | text t => exact ⟨_, _, rfl, rfl⟩
  | @list items h =>
    cases items with
    | nil => exact ⟨_, _, rfl, rfl⟩
    | cons d rest => exact ⟨_, _, rfl, rfl⟩
  | @record fields h =>
    cases fields with
    | nil => exact ⟨_, _, rfl, rfl⟩
    | cons field rest => exact ⟨_, _, rfl, rfl⟩

theorem kind_eq_of_pretty {d e : Datum Text} (hd : d.Exact) (he : e.Exact) {depth : Nat} {r s : Text}
    (h : pretty depth d ++ r = pretty depth e ++ s) : Kind.of d = Kind.of e := by
  obtain ⟨c, x, hc, hkindD⟩ := exists_pretty_eq_cons hd depth
  obtain ⟨c', y, hc', hkindE⟩ := exists_pretty_eq_cons he depth
  rw [hc, hc'] at h
  rw [← hkindD, ← hkindE, (List.cons.inj h).1]

/-- The layout of a value determines it, at every depth. -/
theorem determined_pretty {d : Datum Text} (hd : d.Exact) :
    ∀ depth, Determined Datum.Exact (pretty depth) d := by
  -- the other value is of the same kind, so each case compares two values of one constructor
  induction hd with
  | null =>
    intro depth e he r s hr hs h
    have hkind := kind_eq_of_pretty .null he h
    cases he with
    | null => exact ⟨rfl, List.append_cancel_left h⟩
    | _ => cases hkind
  | bool b =>
    intro depth e he r s hr hs h
    have hkind := kind_eq_of_pretty (.bool b) he h
    cases he with
    | bool b' =>
      cases b <;> cases b'
      · exact ⟨rfl, List.append_cancel_left h⟩
      · cases h
      · cases h
      · exact ⟨rfl, List.append_cancel_left h⟩
    | _ => cases hkind
  | int n =>
    intro depth e he r s hr hs h
    have hkind := kind_eq_of_pretty (.int n) he h
    cases he with
    | int m =>
      rw [pretty, pretty] at h
      obtain ⟨rfl, hrest⟩ := Numeral.print_append_inj hr hs h
      exact ⟨rfl, hrest⟩
    | _ => cases hkind
  | text t =>
    intro depth e he r s hr hs h
    have hkind := kind_eq_of_pretty (.text t) he h
    cases he with
    | text u =>
      rw [pretty, pretty] at h
      obtain ⟨rfl, hrest⟩ := writeString_append_inj h
      exact ⟨rfl, hrest⟩
    | _ => cases hkind
  | @list items hitems ih =>
    intro depth e he r s hr hs h
    have hkind := kind_eq_of_pretty (.list hitems) he h
    cases he with
    | list hothers =>
      rw [pretty_list, pretty_list] at h
      obtain ⟨rfl, hrest⟩ := determined_block (by decide)
        (fun d hd => ih d hd (depth + 1)) _ hothers r s hr hs h
      exact ⟨rfl, hrest⟩
    | _ => cases hkind
  | @record fields hfields ih =>
    intro depth e he r s hr hs h
    have hkind := kind_eq_of_pretty (.record hfields) he h
    cases he with
    | record hothers =>
      rw [pretty_record, pretty_record] at h
      obtain ⟨rfl, hrest⟩ := determined_block (by decide)
        (fun f hf => determined_field (ih f hf (depth + 1))) _ hothers r s hr hs h
      exact ⟨rfl, hrest⟩
    | _ => cases hkind

/-- Values are laid out alike only if they are the same. -/
theorem pretty_inj {d e : Datum Text} (hd : d.Exact) (he : e.Exact) {depth : Nat}
    (h : pretty depth d = pretty depth e) : d = e :=
  (determined_pretty hd depth e he [] [] noDigitHead_nil noDigitHead_nil
    (congrArg (· ++ []) h)).1

end Json

end Disassembly
