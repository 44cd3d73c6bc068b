import Disassembly.Proofs.Signature.Bracketing

/-!
# Shielding the names of special methods

While brackets are erased, a shield stands for the name of each special method. Put in their place,
the shields hide exactly the pieces that are names (`shield_eq_spell`), so the rounds of erasure
leave the pieces outside the matched brackets.

Both shields start and end with the same character, and the shields of constructors are taken off
first. So the letters of a constructor between two shields are taken for a shield of their own,
where the first of the two is that of a class initializer (`Confusable`): its last character and the
first one of the next shield are used up. Everywhere else the names come back
(`unshield_spell_iff`).
-/

set_option autoImplicit false

namespace Disassembly

open Text Signature

namespace Declaration.SpecialMethod

/-- What stands for the name of the method while brackets are erased. -/
def shield : SpecialMethod → Text
  | init => initShield
  | clinit => clinitShield

/-- What stands for the name of the method once the constructors are shielded. -/
def halfShield : SpecialMethod → Text
  | init => initShield
  | clinit => clinitName

theorem plain_shield (m : SpecialMethod) : ∀ c ∈ m.shield, isPlain c = true := by
  cases m <;> decide

theorem head?_shield (m : SpecialMethod) : m.shield.head? = some '\x00' := by
  cases m <;> rfl

/-- A name starts with its only opening bracket, and a closing bracket follows. -/
theorem exists_text_eq (m : SpecialMethod) : ∃ w, m.text = '<' :: w ∧ '<' ∉ w ∧ '>' ∈ w := by
  cases m
  · exact ⟨"init>".toList, rfl, by decide, by decide⟩
  · exact ⟨"clinit>".toList, rfl, by decide, by decide⟩

end Declaration.SpecialMethod

namespace Signature

open Declaration

/-! ## Reading the pieces of a text -/

/-- The pieces of a text: the names of special methods, from left to right, and every character
between them. -/
def tokens : Text → List Token
  | '<' :: 'i' :: 'n' :: 'i' :: 't' :: '>' :: r => .name .init :: tokens r
  | '<' :: 'c' :: 'l' :: 'i' :: 'n' :: 'i' :: 't' :: '>' :: r => .name .clinit :: tokens r
  | c :: r => .character c :: tokens r
  | [] => []

theorem tokens_name (m : SpecialMethod) (r : Text) :
    tokens (m.text ++ r) = .name m :: tokens r := by
  cases m <;> rfl

theorem tokens_character {c : Char} {r : Text} (h : ∀ m : SpecialMethod, ¬m.text <+: c :: r) :
    tokens (c :: r) = .character c :: tokens r := by
  rw [tokens]
  · rintro s rfl rfl
    exact h .init (List.prefix_append initName s)
  · rintro s rfl rfl
    exact h .clinit (List.prefix_append clinitName s)

/-- Induction on the pieces of a text. -/
@[elab_as_elim]
theorem tokenInduction {motive : Text → Prop} (t : Text) (nil : motive [])
    (name : ∀ (m : SpecialMethod) r, motive r → motive (m.text ++ r))
    (character : ∀ c r, (∀ m : SpecialMethod, ¬m.text <+: c :: r) → motive r → motive (c :: r)) :
    motive t := by
  fun_induction tokens t with
  | case1 r ih => exact name .init r ih
  | case2 r ih => exact name .clinit r ih
  | case3 c r hinit hclinit ih =>
    refine character c r (fun m => ?_) ih
    rintro ⟨s, hs⟩
    cases m with
    | init => exact hinit s (List.cons.inj hs).1.symm (List.cons.inj hs).2.symm
    | clinit => exact hclinit s (List.cons.inj hs).1.symm (List.cons.inj hs).2.symm
  | case4 => exact nil

/-- The pieces make up the text. -/
@[simp]
theorem spell_tokens (t : Text) : spell SpecialMethod.text (tokens t) = t := by
  induction t using tokenInduction with
  | nil => rfl
  | name m r ih => rw [tokens_name, spell_name, ih]
  | character c r h ih => rw [tokens_character h, spell_character, ih]

/-- A text at the start of spelled pieces is made of single characters, if it has none that starts
a name. -/
theorem map_character_isPrefix {names : SpecialMethod → Text} {w : Text} {ts : List Token}
    (hnames : ∀ m, ∃ c, (names m).head? = some c ∧ c ∉ w) (h : w <+: spell names ts) :
    w.map .character <+: ts := by
  induction w generalizing ts with
  | nil => exact List.nil_prefix
  | cons d w ih =>
    cases ts with
    | nil => exact absurd (List.prefix_nil.1 h) (List.cons_ne_nil d w)
    | cons t ts =>
      cases t with
      | name m =>
        obtain ⟨c, hhead, hc⟩ := hnames m
        obtain ⟨letters, hletters⟩ := List.head?_eq_some_iff.1 hhead
        rw [spell_name, hletters] at h
        obtain ⟨rfl, -⟩ := List.cons_prefix_cons.1 h
        exact absurd List.mem_cons_self hc
      | character c =>
        obtain ⟨rfl, hrest⟩ := List.cons_prefix_cons.1 h
        refine List.cons_prefix_cons.2 ⟨rfl, ih (fun m => ?_) hrest⟩
        obtain ⟨c, hhead, hc⟩ := hnames m
        exact ⟨c, hhead, fun hmem => hc (List.mem_cons_of_mem d hmem)⟩

/-- Pieces are read as they are written, if no opening bracket stands in front of a closing one. -/
theorem tokens_spell {ts : List Token}
    (h : ¬List.Sublist [.character '<', .character '>'] ts) :
    tokens (spell SpecialMethod.text ts) = ts := by
  induction ts with
  | nil => rfl
  | cons t ts ih =>
    have hrest : tokens (spell SpecialMethod.text ts) = ts :=
      ih fun hts => h (hts.trans (List.sublist_cons_self t ts))
    cases t with
    | name m => rw [spell_name, tokens_name, hrest]
    | character c =>
      rw [spell_character, tokens_character, hrest]
      intro m hm
      -- the brackets of such a name would be an opening and a closing one
      obtain ⟨w, hw, hopen, hclose⟩ := m.exists_text_eq
      rw [hw, List.cons_prefix_cons] at hm
      obtain ⟨rfl, hm⟩ := hm
      have hletters : w.map .character <+: ts := by
        apply map_character_isPrefix _ hm
        intro m'
        obtain ⟨w', hw', -⟩ := m'.exists_text_eq
        exact ⟨'<', by rw [hw']; rfl, hopen⟩
      have hmem : Token.character '>' ∈ ts := hletters.subset (List.mem_map_of_mem hclose)
      exact h ((List.singleton_sublist.2 hmem).cons_cons _)

/-! ## Putting the shields in place -/

theorem replace_initName (t : Text) :
    replace initName initShield t = spell SpecialMethod.halfShield (tokens t) := by
  induction t using tokenInduction with
  | nil => rfl
  | name m r ih =>
    rw [tokens_name, spell_name, ← ih]
    cases m with
    | init => exact rewrites_initName r
    | clinit => exact rewrites_initName_clinitName r
  | character c r h ih =>
    have hkept : ¬initName <+: c :: r := h .init
    rw [tokens_character h, spell_character, replace_cons hkept, ih]

theorem replace_clinitName (t : Text) :
    replace clinitName clinitShield (spell SpecialMethod.halfShield (tokens t)) =
      spell SpecialMethod.shield (tokens t) := by
  induction t using tokenInduction with
  | nil => rfl
  | name m r ih =>
    rw [tokens_name, spell_name, spell_name, ← ih]
    cases m with
    | init => exact rewrites_clinitName_initShield _
    | clinit => exact rewrites_clinitName _
  | character c r h ih =>
    rw [tokens_character h, spell_character, spell_character, replace_cons, ih]
    -- no name comes about from a bracket and the letters behind it
    intro hstart
    obtain ⟨rfl, hrest⟩ := List.cons_prefix_cons.1 hstart
    have hletters : "clinit>".toList.map .character <+: tokens r := by
      apply map_character_isPrefix _ hrest
      intro m
      cases m with
      | init => exact ⟨'\x00', rfl, by decide⟩
      | clinit => exact ⟨'<', rfl, by decide⟩
    obtain ⟨us, hus⟩ := hletters
    apply h .clinit
    rw [← spell_tokens r, ← hus, spell_append, spell_map_character]
    exact List.prefix_append clinitName _

/-- The shields stand for the pieces that are names. -/
theorem shield_eq_spell (t : Text) : shield t = spell SpecialMethod.shield (tokens t) := by
  rw [shield, replace_initName, replace_clinitName]

/-! ## Taking the shields off -/

theorem unshield_character {c : Char} (hc : c ≠ '\x00') (t : Text) :
    unshield (c :: t) = c :: unshield t := by
  have hinit : ¬initShield <+: c :: t := fun h => hc (List.cons_prefix_cons.1 h).1.symm
  have hclinit : ¬clinitShield <+: c :: replace initShield initName t :=
    fun h => hc (List.cons_prefix_cons.1 h).1.symm
  rw [unshield, replace_cons hinit, replace_cons hclinit, ← unshield]

theorem unshield_init (t : Text) : unshield (initShield ++ t) = initName ++ unshield t := by
  rw [unshield, rewrites_initShield, rewrites_clinitShield_initName, ← unshield]

theorem clinitShield_append (t : Text) :
    clinitShield ++ t = ('\x00' :: "clinit".toList) ++ '\x00' :: t := rfl

theorem unshield_clinit {t : Text} (h : ¬"init".toList ++ ['\x00'] <+: t) :
    unshield (clinitShield ++ t) = clinitName ++ unshield t := by
  have hlast : ¬initShield <+: '\x00' :: t := fun hstart => h (List.cons_prefix_cons.1 hstart).2
  rw [unshield, clinitShield_append, rewrites_initShield_front, replace_cons hlast,
    ← clinitShield_append, rewrites_clinitShield, ← unshield]

/-- The last character of the shield is taken for the first one of the next shield. -/
theorem head?_unshield_clinit {t : Text} (h : "init".toList ++ ['\x00'] <+: t) :
    (unshield (clinitShield ++ t)).head? = some '\x00' := by
  obtain ⟨u, rfl⟩ := h
  have hnext : '\x00' :: ("init".toList ++ ['\x00'] ++ u) = initShield ++ u := rfl
  have hkept : ∀ v, ¬clinitShield <+: '\x00' :: ("clinit".toList ++ (initName ++ v)) := by
    intro v hstart
    have hletters : "clinit".toList ++ ['\x00'] <+: "clinit".toList ++ (initName ++ v) :=
      (List.cons_prefix_cons.1 hstart).2
    rw [List.prefix_append_right_inj] at hletters
    exact absurd (List.cons_prefix_cons.1 hletters).1 (by decide)
  rw [unshield, clinitShield_append, rewrites_initShield_front, hnext, rewrites_initShield,
    List.cons_append, replace_cons (hkept _)]
  rfl

/-- The letters of a constructor stand between the name of a class initializer and that of another
special method. -/
def Confusable (ts : List Token) : Prop :=
  ∃ m, .name .clinit :: ("init".toList.map .character ++ [.name m]) <:+: ts

theorem not_confusable_nil : ¬Confusable [] := by
  rintro ⟨m, h⟩
  exact absurd (List.infix_nil.1 h) (List.cons_ne_nil _ _)

/-- Pieces can be confused from the first one on, or behind it. -/
theorem confusable_cons_iff {t : Token} {ts : List Token} : Confusable (t :: ts) ↔
    (t = .name .clinit ∧ ∃ m, "init".toList.map .character ++ [.name m] <+: ts) ∨
      Confusable ts := by
  simp only [Confusable, List.infix_cons_iff, List.cons_prefix_cons, exists_or]
  constructor
  · rintro (⟨m, rfl, h⟩ | h)
    · exact Or.inl ⟨rfl, m, h⟩
    · exact Or.inr h
  · rintro (⟨rfl, m, h⟩ | h)
    · exact Or.inl ⟨m, rfl, h⟩
    · exact Or.inr h

/-- What follows a shield goes on like the end of a constructor's shield only where its letters and
another shield stand. -/
theorem isPrefix_spell_shield_iff {ts : List Token} (hts : .character '\x00' ∉ ts) :
    "init".toList ++ ['\x00'] <+: spell SpecialMethod.shield ts ↔
      ∃ m, "init".toList.map .character ++ [.name m] <+: ts := by
  constructor
  · intro h
    have hletters : "init".toList.map .character <+: ts := by
      refine map_character_isPrefix (fun m => ⟨'\x00', m.head?_shield, by decide⟩)
        ((List.prefix_append "init".toList ['\x00']).trans h)
    obtain ⟨us, rfl⟩ := hletters
    rw [spell_append, spell_map_character, List.prefix_append_right_inj] at h
    cases us with
    | nil => exact absurd (List.prefix_nil.1 h) (List.cons_ne_nil _ _)
    | cons t us =>
      cases t with
      | name m => exact ⟨m, (List.prefix_append_right_inj _).2 (List.prefix_append [.name m] us)⟩
      | character c =>
        obtain ⟨rfl, -⟩ := List.cons_prefix_cons.1 h
        exact absurd (List.mem_append_right _ List.mem_cons_self) hts
  · rintro ⟨m, us, rfl⟩
    obtain ⟨letters, hletters⟩ := List.head?_eq_some_iff.1 m.head?_shield
    rw [List.append_assoc, spell_append, spell_map_character, List.prefix_append_right_inj,
      List.singleton_append, spell_name, hletters]
    exact List.prefix_append ['\x00'] _

theorem ne_zero_of_notMem {c : Char} {ts : List Token} (h : .character '\x00' ∉ .character c :: ts) :
    c ≠ '\x00' := by
  rintro rfl
  exact h List.mem_cons_self

/-- Where no pieces can be confused, the names come back. -/
theorem unshield_spell {ts : List Token} (hts : .character '\x00' ∉ ts) (h : ¬Confusable ts) :
    unshield (spell SpecialMethod.shield ts) = spell SpecialMethod.text ts := by
  induction ts with
  | nil => rfl
  | cons t ts ih =>
    have hrest : .character '\x00' ∉ ts := fun hmem => hts (List.mem_cons_of_mem t hmem)
    rw [confusable_cons_iff, not_or, ← isPrefix_spell_shield_iff hrest] at h
    have hbehind := ih hrest h.2
    cases t with
    | name m =>
      cases m with
      | init => rw [spell_name, spell_name, SpecialMethod.shield, unshield_init, hbehind]; rfl
      | clinit =>
        have hnext : ¬"init".toList ++ ['\x00'] <+: spell SpecialMethod.shield ts :=
          fun hnext => h.1 ⟨rfl, hnext⟩
        rw [spell_name, spell_name, SpecialMethod.shield, unshield_clinit hnext, hbehind]
        rfl
    | character c =>
      rw [spell_character, spell_character, unshield_character (ne_zero_of_notMem hts), hbehind]

/-- Where pieces can be confused, half a shield is left. -/
theorem mem_unshield_spell {ts : List Token} (hts : .character '\x00' ∉ ts) (h : Confusable ts) :
    '\x00' ∈ unshield (spell SpecialMethod.shield ts) := by
  induction ts with
  | nil => exact absurd h not_confusable_nil
  | cons t ts ih =>
    have hrest : .character '\x00' ∉ ts := fun hmem => hts (List.mem_cons_of_mem t hmem)
    rw [confusable_cons_iff, ← isPrefix_spell_shield_iff hrest] at h
    rcases h with ⟨rfl, hnext⟩ | h
    · exact List.mem_of_head? (head?_unshield_clinit hnext)
    · have hbehind := ih hrest h
      cases t with
      | name m =>
        rw [spell_name]
        cases m with
        | init =>
          rw [SpecialMethod.shield, unshield_init]
          exact List.mem_append_right initName hbehind
        | clinit =>
          rw [SpecialMethod.shield]
          by_cases hnext : "init".toList ++ ['\x00'] <+: spell SpecialMethod.shield ts
          · exact List.mem_of_head? (head?_unshield_clinit hnext)
          · rw [unshield_clinit hnext]
            exact List.mem_append_right clinitName hbehind
      | character c =>
        rw [spell_character, unshield_character (ne_zero_of_notMem hts)]
        exact List.mem_cons_of_mem c hbehind

/-! ## Erasure -/

/-- The text outside the matched brackets, where the name of a special method is a single piece. -/
def outside (t : Text) : Text :=
  spell SpecialMethod.text (unmatched (tokens t))

theorem outside_subset (t : Text) : outside t ⊆ t := by
  have h := sublist_spell SpecialMethod.text (unmatched_sublist (tokens t))
  rw [spell_tokens] at h
  exact h.subset

theorem character_mem {c : Char} {t : Text} (h : .character c ∈ tokens t) : c ∈ t := by
  have hmem : c ∈ spell SpecialMethod.text (tokens t) :=
    List.mem_flatMap.2 ⟨.character c, h, List.mem_singleton_self c⟩
  rwa [spell_tokens] at hmem

/-- Brackets are erased in rounds, until a round changes nothing. What is left are the shielded
pieces outside the matched brackets, and once the shields are taken off, this is the text of these
pieces, unless the letters of a constructor among them are taken for its name. -/
theorem eraseGenerics_eq_outside_iff {t : Text} (ht : '\x00' ∉ t) :
    (∃ n, eraseInnermost^[n + 1] (shield t) = eraseInnermost^[n] (shield t) ∧
      eraseInnermost^[n] (shield t) = spell SpecialMethod.shield (unmatched (tokens t)) ∧
      eraseGenerics t = unshield (eraseInnermost^[n] (shield t))) ∧
    (eraseGenerics t = outside t ↔ ¬Confusable (unmatched (tokens t))) ∧
    ('\x00' ∈ eraseGenerics t ↔ Confusable (unmatched (tokens t))) ∧
    tokens (outside t) = unmatched (tokens t) ∧
    List.Sublist (tokens (outside t)) (tokens t) ∧
    ¬List.Sublist [.character '<', .character '>'] (tokens (outside t)) := by
  have hpair := not_sublist_unmatched SpecialMethod.plain_shield (tokens t)
  have houtside : tokens (outside t) = unmatched (tokens t) := tokens_spell hpair
  have herased : erasePairs (shield t) = spell SpecialMethod.shield (unmatched (tokens t)) := by
    rw [shield_eq_spell, erasePairs_spell SpecialMethod.plain_shield]
  have hrounds : eraseInnermost^[(shield t).count '<'] (shield t) = erasePairs (shield t) := by
    rw [erasePairs, eraseRounds_eq_iterate]
  have hzero : .character '\x00' ∉ unmatched (tokens t) :=
    fun hmem => ht (character_mem ((unmatched_sublist _).subset hmem))
  have hkept : ¬Confusable (unmatched (tokens t)) → eraseGenerics t = outside t := by
    intro h
    rw [eraseGenerics, herased, unshield_spell hzero h, outside]
  have hopen : Confusable (unmatched (tokens t)) → '\x00' ∈ eraseGenerics t := by
    intro h
    rw [eraseGenerics, herased]
    exact mem_unshield_spell hzero h
  refine ⟨⟨(shield t).count '<', (iterate_eraseInnermost (Nat.le_refl _)).1, ?_, ?_⟩,
    ⟨fun heq h => ?_, hkept⟩, ⟨fun hmem => ?_, hopen⟩, houtside, ?_, ?_⟩
  · rw [hrounds, herased]
  · rw [hrounds, eraseGenerics]
  · exact ht (outside_subset t (heq ▸ hopen h))
  · by_contra h
    exact ht (outside_subset t (hkept h ▸ hmem))
  · rw [houtside]
    exact unmatched_sublist (tokens t)
  · rwa [houtside]

/-- Nested and unmatched brackets beside the name of a constructor. -/
theorem eraseGenerics_eq_outside_iff_nested :
    '\x00' ∉ "> void <init>(Map<K, List<V>> m) <".toList ∧
      ¬Confusable (unmatched (tokens "> void <init>(Map<K, List<V>> m) <".toList)) ∧
      outside "> void <init>(Map<K, List<V>> m) <".toList = "> void <init>(Map m) <".toList := by
  have hzero : '\x00' ∉ "> void <init>(Map<K, List<V>> m) <".toList := by decide
  obtain ⟨-, hsame, -⟩ := eraseGenerics_eq_outside_iff hzero
  exact ⟨hzero, hsame.1 (by decide), by decide⟩

/-- The letters of a constructor between two names are taken for a name of their own, and its
neighbours are lost. -/
theorem eraseGenerics_ne_outside :
    '\x00' ∉ "<clinit>init<init>".toList ∧
      outside "<clinit>init<init>".toList = "<clinit>init<init>".toList ∧
      eraseGenerics "<clinit>init<init>".toList = "\x00clinit<init>init\x00".toList := by
  decide

end Signature

end Disassembly
