import Disassembly.Proofs.Declaration.Canonical
import Mathlib.Tactic

/-!
# Reading declarations

The structure that is read off the text of a declaration is the structure that the declaration shows
(`ofText?_write`). Its canonical text is cut at the parentheses; the words in front of the name are
the modifiers and the type of the result, and the first word of a parameter that is no modifier is
its type.
-/

set_option autoImplicit false

namespace Disassembly.Declaration

open Text Signature

/-! ## Erased types -/

theorem TypeUse.mem_erased {t : TypeUse} {c : Char} (h : c ∈ t.erased) :
    isIdentifierChar c = true ∨ c = '.' ∨ c = '[' ∨ c = ']' := by
  rw [erased, List.mem_append] at h
  rcases h with h | h
  · exact (mem_name h).imp_right Or.inl
  · obtain ⟨pair, hpair, hc⟩ := List.mem_flatten.1 h
    rw [(List.mem_replicate.1 hpair).2] at hc
    exact Or.inr (Or.inr (by simpa using hc))

theorem TypeUse.isWord_erased (t : TypeUse) :
    t.erased ≠ [] ∧ ∀ c ∈ t.erased, isBlank c = false := by
  refine ⟨fun h => t.name_ne_nil (List.append_eq_nil_iff.1 h).1, fun c hc => ?_⟩
  rcases mem_erased hc with h | rfl | rfl | rfl
  · exact not_isBlank_of_isIdentifierChar h
  · decide
  · decide
  · decide

/-- An erased type is no modifier. -/
theorem TypeUse.not_isModifier (t : TypeUse) : isModifier t.erased = false := by
  rw [Bool.eq_false_iff]
  intro h
  have hknown : t.erased ∈ modifierWords := by simpa [isModifier] using h
  have hlower := (Modifier.chars ⟨t.erased, hknown⟩).2
  -- an erased type that is a known word has neither brackets nor dots: it is one identifier
  have hdimensions : t.dimensions.count = 0 := by
    by_contra hne
    obtain ⟨n, hn⟩ := Nat.exists_eq_succ_of_ne_zero hne
    have hbracket : '[' ∈ t.erased := by simp [erased, hn, List.replicate_succ]
    exact absurd (hlower '[' hbracket) (by decide)
  have hrest : t.rest = [] := by
    cases hrest : t.rest with
    | nil => rfl
    | cons s rest =>
      have hdot : '.' ∈ t.erased := by simp [erased, name, hrest]
      exact absurd (hlower '.' hdot) (by decide)
  have hname : t.erased = t.first.name.text := by simp [erased, name, hrest, hdimensions]
  rw [hname, t.first.name.notModifier] at h
  exact Bool.false_ne_true h

/-! ## Cutting at the parentheses -/

theorem shape_ofText? {head name parameters : Text} (hne : name ≠ [])
    (hname : ∀ c ∈ name, isNameChar c = true)
    (hhead : ∀ c ∈ head.getLast?, isNameChar c = false)
    (hparameters : ∀ c ∈ parameters, isOutsideParentheses c = true) :
    Shape.ofText? (head ++ name ++ '(' :: (parameters ++ [')'])) =
      some ⟨head, name, parameters⟩ := by
  have hreverse : (head ++ name ++ '(' :: (parameters ++ [')'])).reverse =
      ')' :: (parameters.reverse ++ '(' :: (name.reverse ++ head.reverse)) := by simp
  have hopen : ∀ c ∈ ('(' :: (name.reverse ++ head.reverse)).head?,
      isOutsideParentheses c = false := by
    rintro c ⟨⟩
    rfl
  have hback : ∀ c ∈ head.reverse.head?, isNameChar c = false := by
    rw [List.head?_reverse]
    exact hhead
  have hrun : ∀ c ∈ parameters.reverse, isOutsideParentheses c = true := by simpa using hparameters
  have hnames : ∀ c ∈ name.reverse, isNameChar c = true := by simpa using hname
  simp only [Shape.ofText?, hreverse, dropWhile_run hrun hopen, takeWhile_run hrun hopen,
    takeWhile_run hnames hback, dropWhile_run hnames hback]
  simp [hne]

theorem isWord_headWords (d : Declaration) :
    ∀ w ∈ d.headWords, w ≠ [] ∧ ∀ c ∈ w, isBlank c = false := by
  intro w hw
  rw [headWords, List.mem_append] at hw
  rcases hw with hw | hw
  · obtain ⟨m, -, rfl⟩ := List.mem_map.1 hw
    exact ⟨m.1.chars.1, fun c hc =>
      not_isBlank_of_isIdentifierChar (Modifier.isIdentifierChar_of_mem hc)⟩
  · cases hsubject : d.subject with
    | method result gap name =>
      rw [hsubject] at hw
      obtain rfl : w = result.erased := by simpa [Subject.result?] using hw
      exact result.isWord_erased
    | special m => simp [hsubject, Subject.result?] at hw
    | constructor className => simp [hsubject, Subject.result?] at hw

theorem getLast?_head (d : Declaration) : ∀ c ∈ d.head.getLast?, isNameChar c = false := by
  intro c hc
  rw [head] at hc
  rcases List.eq_nil_or_concat d.headWords with h | ⟨ws, w, h⟩
  · rw [h] at hc
    cases hc
  · rw [h, List.concat_eq_append, List.flatMap_append, List.flatMap_singleton, ← List.append_assoc,
      List.getLast?_concat] at hc
    obtain rfl := Option.some.inj hc
    decide

/-! ## Parameters -/

theorem Parameter.mem_canonical {p : Parameter} {c : Char} (h : c ∈ p.canonical) :
    isOutsideParentheses c = true ∧ c ≠ ',' := by
  have hidentifier : ∀ d, isIdentifierChar d = true → isOutsideParentheses d = true ∧ d ≠ ',' := by
    intro d hd
    have hpunctuation := (isSolid_iff.1 (isSolid_of_isIdentifierChar hd)).2.1
    simp only [isPunctuation, Bool.or_eq_false_iff, beq_eq_false_iff_ne] at hpunctuation
    simp [isOutsideParentheses, hpunctuation]
  rw [canonical, List.mem_append, List.mem_append] at h
  rcases h with (h | h) | h
  · cases hfinal : p.final? with
    | none => simp [hfinal] at h
    | some g =>
      rw [hfinal] at h
      have hall : ∀ d ∈ "final ".toList, isOutsideParentheses d = true ∧ d ≠ ',' := by decide
      exact hall c h
  · rcases TypeUse.mem_erased h with h | rfl | rfl | rfl
    · exact hidentifier c h
    · decide
    · decide
    · decide
  · cases hname : p.name? with
    | none => simp [hname] at h
    | some named =>
      rw [hname] at h
      rcases List.mem_cons.1 h with rfl | h
      · decide
      · exact hidentifier c (named.2.chars c h)

/-- The first word of a parameter that is no modifier is its type. -/
theorem Parameter.exists_words (p : Parameter) :
    ∃ more, (words p.canonical).filter (!isModifier ·) = p.type.erased :: more := by
  obtain ⟨hne, hblank⟩ := p.type.isWord_erased
  have htype : words p.type.erased = [p.type.erased] := words_eq_singleton hne hblank
  have hrest : ∃ more, words (p.type.erased ++ (p.name?.map fun named => ' ' :: named.2.text).getD
      []) = p.type.erased :: more := by
    cases p.name? with
    | none => exact ⟨[], by simpa using htype⟩
    | some named =>
      refine ⟨words named.2.text, ?_⟩
      have hsplit := words_append_cons (c := ' ') (by decide) p.type.erased named.2.text
      rw [htype] at hsplit
      exact hsplit
  obtain ⟨more, hmore⟩ := hrest
  refine ⟨more.filter (!isModifier ·), ?_⟩
  have hfilter : (p.type.erased :: more).filter (!isModifier ·) =
      p.type.erased :: more.filter (!isModifier ·) :=
    List.filter_cons_of_pos (by simp [p.type.not_isModifier])
  rw [canonical, List.append_assoc]
  cases p.final? with
  | none => exact (congrArg _ hmore).trans hfilter
  | some g =>
    have hfinal : words ("final".toList ++ ' ' :: (p.type.erased ++
        (p.name?.map fun named => ' ' :: named.2.text).getD [])) =
          "final".toList :: p.type.erased :: more := by
      rw [words_append_cons (by decide), hmore]
      rfl
    refine (congrArg _ hfinal).trans ?_
    rw [List.filter_cons_of_neg (by decide)]
    exact hfilter

theorem parameterType_trim_canonical (p : Parameter) (margin : Text)
    (hmargin : ∀ c ∈ margin, isBlank c = true) :
    trim (margin ++ p.canonical) ≠ [] ∧
      parameterType (trim (margin ++ p.canonical)) = p.type.erased := by
  obtain ⟨more, hwords⟩ := p.exists_words
  have htrim : words (trim (margin ++ p.canonical)) = words p.canonical := by
    rw [words_trim, words_blank_append hmargin]
  refine ⟨fun hnil => ?_, ?_⟩
  · rw [hnil] at htrim
    rw [← htrim] at hwords
    cases hwords
  · rw [parameterType, htrim, hwords]
    rfl

theorem comma_notMem (p : Parameter) (margin : Text) (hmargin : ∀ c ∈ margin, isBlank c = true) :
    ',' ∉ margin ++ p.canonical := by
  rw [List.mem_append]
  rintro (h | h)
  · exact absurd (hmargin ',' h) (by decide)
  · exact (Parameter.mem_canonical h).2 rfl

theorem parameterTypes_single {x : Text} (hx : ',' ∉ x) (hne : trim x ≠ []) :
    parameterTypes x = [parameterType (trim x)] := by
  rw [parameterTypes, List.splitOn_eq_singleton hx, List.map_singleton,
    List.filter_cons_of_pos (by simpa using hne)]
  rfl

theorem parameterTypes_cons {x : Text} (hx : ',' ∉ x) (hne : trim x ≠ []) (y : Text) :
    parameterTypes (x ++ ',' :: y) = parameterType (trim x) :: parameterTypes y := by
  rw [parameterTypes, List.splitOn_append_cons_self_of_not_mem hx, List.map_cons,
    List.filter_cons_of_pos (by simpa using hne)]
  rfl

/-- The types of the parameters are read off their canonical text. -/
theorem parameterTypes_canonical (ps : Parameters) : parameterTypes ps.canonical = ps.types := by
  -- all parameters but the first have a space in front, which is trimmed
  have hspaced : ∀ (rest : List Place) (first : Place) (margin : Text),
      (∀ c ∈ margin, isBlank c = true) →
      parameterTypes (margin ++ (Parameters.some first rest).canonical) =
        (Parameters.some first rest).types := by
    intro rest
    induction rest with
    | nil =>
      intro first margin hmargin
      obtain ⟨hne, htype⟩ := parameterType_trim_canonical first.parameter margin hmargin
      have hcomma := comma_notMem first.parameter margin hmargin
      have hcanonical : (Parameters.some first []).canonical = first.parameter.canonical := by
        simp [Parameters.canonical]
      rw [hcanonical, parameterTypes_single hcomma hne, htype]
      rfl
    | cons next rest ih =>
      intro first margin hmargin
      obtain ⟨hne, htype⟩ := parameterType_trim_canonical first.parameter margin hmargin
      have hcomma := comma_notMem first.parameter margin hmargin
      have hsplit : margin ++ (Parameters.some first (next :: rest)).canonical =
          (margin ++ first.parameter.canonical) ++
            ',' :: ([' '] ++ (Parameters.some next rest).canonical) := by
        simp [Parameters.canonical]
      rw [hsplit, parameterTypes_cons hcomma hne, htype, ih next [' '] (by decide)]
      rfl
  cases ps with
  | none inside => rfl
  | some first rest => exact hspaced rest first [] (by simp)

theorem Parameters.isOutsideParentheses_canonical (ps : Parameters) :
    ∀ c ∈ ps.canonical, isOutsideParentheses c = true := by
  intro c hc
  cases ps with
  | none inside => exact absurd hc List.not_mem_nil
  | some first rest =>
    rw [Parameters.canonical, List.mem_append, List.mem_flatMap] at hc
    rcases hc with hc | ⟨p, -, hc⟩
    · exact (Parameter.mem_canonical hc).1
    · rcases List.mem_cons.1 hc with rfl | hc
      · decide
      · rcases List.mem_cons.1 hc with rfl | hc
        · decide
        · exact (Parameter.mem_canonical hc).1

/-! ## The name -/

theorem lastPart_eq_self {joint : Char} {t : Text} (h : joint ∉ t) : lastPart joint t = t := by
  have hall : ∀ c ∈ t.reverse, (c != joint) = true := by
    intro c hc
    rw [bne_iff_ne]
    rintro rfl
    exact h (List.mem_reverse.1 hc)
  rw [lastPart, takeWhileEnd, List.takeWhile_eq_self_iff.2 hall, List.reverse_reverse]

theorem lastPart_append_cons {joint : Char} {t : Text} (h : joint ∉ t) (front : Text) :
    lastPart joint (front ++ joint :: t) = t := by
  have hjoint : lastPart joint (front ++ joint :: t) = lastPart joint t :=
    takeWhileEnd_append_cons (by simp) front t
  rw [hjoint, lastPart_eq_self h]

theorem Identifier.dot_notMem (i : Identifier) : '.' ∉ i.text :=
  fun h => absurd (i.chars '.' h) (by decide)

/-- The name of a class is what stands behind its packages and outer classes. -/
theorem ClassName.lastPart_text (c : ClassName) :
    lastPart '$' (lastPart '.' c.text) = c.simple := by
  -- the last identifier holds no dot, so it stands behind the last one
  have hpackages : lastPart '.' c.text = c.identifier.text := by
    rw [text]
    rcases List.eq_nil_or_concat c.packages with h | ⟨ps, p, h⟩
    · rw [h]
      exact lastPart_eq_self c.identifier.dot_notMem
    · have hsplit : c.packages.flatMap (fun p => p.text ++ ['.']) ++ c.identifier.text =
          (ps.flatMap (fun p => p.text ++ ['.']) ++ p.text) ++ '.' :: c.identifier.text := by
        simp [h]
      rw [hsplit]
      exact lastPart_append_cons c.identifier.dot_notMem _
  rw [hpackages, c.identifier_eq]
  rcases c.outer_end with h | h
  · rw [h]
    exact lastPart_eq_self c.simple_plain
  · obtain ⟨front, hfront⟩ := List.getLast?_eq_some_iff.1 h
    rw [hfront, List.append_assoc]
    exact lastPart_append_cons c.simple_plain front

/-- The name that is read off is the one that the declaration shows. -/
theorem Subject.name_eq (s : Subject) :
    (if s.result?.isNone then lastPart '$' (lastPart '.' s.writtenName)
      else lastPart '.' s.writtenName) = s.name := by
  have hspecial : ∀ m : SpecialMethod,
      lastPart '.' m.text = m.text ∧ lastPart '$' m.text = m.text :=
    fun m => by cases m <;> exact ⟨lastPart_eq_self (by decide), lastPart_eq_self (by decide)⟩
  cases s with
  | method result gap name =>
    cases name with
    | ordinary i => exact lastPart_eq_self i.dot_notMem
    | special m => exact (hspecial m).1
  | special m =>
    rw [Subject.writtenName, (hspecial m).1]
    exact (hspecial m).2
  | constructor className => exact className.lastPart_text

/-! ## The whole structure -/

theorem filter_headWords (d : Declaration) :
    (d.headWords.filter (!isModifier ·)).getLast? = d.subject.result? := by
  have hmodifiers : (d.modifiers.map (·.1.text)).filter (!isModifier ·) = [] := by
    rw [List.filter_eq_nil_iff]
    intro w hw
    obtain ⟨m, -, rfl⟩ := List.mem_map.1 hw
    simpa [isModifier] using m.1.known
  rw [headWords, List.filter_append, hmodifiers, List.nil_append]
  cases d.subject with
  | method result gap name => simp [Subject.result?, result.not_isModifier]
  | special m => rfl
  | constructor className => rfl

theorem filter_modifierWords (d : Declaration) :
    modifierWords.filter (d.headWords.contains ·) =
      modifierWords.filter ((d.modifiers.map (·.1.text)).contains ·) := by
  apply List.filter_congr
  intro w hw
  have hresult : w ∉ d.subject.result?.toList := by
    intro hmem
    cases hsubject : d.subject with
    | method result gap name =>
      rw [hsubject] at hmem
      obtain rfl : w = result.erased := by simpa [Subject.result?] using hmem
      have hmodifier : isModifier result.erased = true := by simpa [isModifier] using hw
      rw [result.not_isModifier] at hmodifier
      exact Bool.false_ne_true hmodifier
    | special m => simp [hsubject, Subject.result?] at hmem
    | constructor className => simp [hsubject, Subject.result?] at hmem
  rw [Bool.eq_iff_iff, List.contains_iff_mem, List.contains_iff_mem, headWords, List.mem_append]
  exact or_iff_left hresult

/-- A text with the canonical text of a declaration shows the structure of the declaration. -/
theorem ofText?_of_canonical (d : Declaration) {t : Text}
    (h : canonical .qualified t =
      d.head ++ d.subject.writtenName ++ '(' :: (d.parameters.canonical ++ [')'])) :
    Signature.ofText? t = some d.signature := by
  have hshape := shape_ofText? d.subject.chars.1 (fun c hc => (d.subject.chars.2 c hc).1)
    d.getLast?_head d.parameters.isOutsideParentheses_canonical
  rw [ofText?, ofCanonical?, h, hshape, Option.map_some, ofShape, head,
    words_spaced d.isWord_headWords, filter_headWords, filter_modifierWords,
    parameterTypes_canonical, d.subject.name_eq]
  rfl

/-- Reading a declaration recovers its structure, however deep its type arguments are nested, and
whatever gaps it has. -/
theorem ofText?_write (d : Declaration) : Signature.ofText? d.write = some d.signature :=
  d.ofText?_of_canonical d.canonical_write

example :
    let list : Segment := ⟨⟨"List".toList, by decide, by decide, by decide⟩,
      some ⟨"K,V".toList, ⟨_, .of_plain (by decide)⟩, by decide, by decide, by decide⟩⟩
    let parameter : Parameter := ⟨none, ⟨list, [], .ellipsis ⟨[' '], by decide⟩⟩, none⟩
    let d : Declaration := {
      lead := ⟨[], by decide⟩
      modifiers := []
      typeParameters := none
      subject := .special .init
      beforeOpen := ⟨[' '], by decide⟩
      parameters := .some ⟨⟨[], by decide⟩, parameter, ⟨[], by decide⟩⟩ []
      throws? := none
      semicolon? := some ⟨[], by decide⟩
      trail := ⟨['\n'], by decide⟩ }
    d.write = "<init> (List<K,V> ...);\n".toList ∧
      d.signature = ⟨"<init>".toList, ["List[]".toList], none, []⟩ := by
  decide

end Disassembly.Declaration
