import Descent.Proofs.Declarations.Spelling

namespace Descent.Example.Declarations

open Descent.Parser Descent.Text

variable {env : Env} {level : Nat} {c : Char} {t u : Text}

theorem word_settles (a : Word) (ht : Outside isWordChar t) :
    Settles env 2 (lexeme word) (a.1 ++ t) (.ok (skipBlanks t) (.leaf a.1)) :=
  settles_token settles_word a ht

theorem numeral_settles (a : Token isAsciiDigit) (ht : Outside isAsciiDigit t) :
    Settles env 2 (lexeme natural) (a.1 ++ t) (.ok (skipBlanks t) (.leaf a.1)) :=
  settles_token settles_natural a ht

theorem skipBlanks_listed {α : Type} (write : α → Text) (l : Listed α) :
    skipBlanks (l.text write ++ t) = ',' :: (l.after.1 ++ (write l.item ++ t)) := by
  simp only [Listed.text, List.append_assoc, List.cons_append]
  exact skipBlanks_gap_cons l.before (by decide)

-- What comes behind something that was taken is never the whole text.
theorem skipBlanks_ne_append {taken : Text} (hne : taken ≠ []) : skipBlanks t ≠ taken ++ t := by
  intro h
  have hlength := congrArg List.length h
  have hle := (skipBlanks_suffix t).length_le
  have hpos := List.length_pos_iff.mpr hne
  simp only [List.length_append] at hlength
  omega

section Tokens

-- Blanks and commas end a token.
structure Parted (accepts : Char → Bool) : Prop where
  blank : ∀ c, isBlank c = true → accepts c = false
  comma : accepts ',' = false

theorem parted_word : Parted isWordChar where
  blank _ := not_isWordChar_of_isBlank
  comma := by decide

theorem parted_digit : Parted isAsciiDigit where
  blank _ := not_isAsciiDigit_of_isBlank
  comma := by decide

variable {accepts : Char → Bool} {element : Parser} {value : Text → Match}

theorem Parted.outside_blank (h : Parted accepts) (a : Token accepts) :
    Outside isBlank (a.1 ++ t) :=
  a.outside fun c hc => Bool.eq_false_iff.mpr fun hblank => by simp [h.blank c hblank] at hc

theorem Parted.outside_gap (h : Parted accepts) (w : Gap) (hc : accepts c = false) :
    Outside accepts (w.1 ++ c :: t) :=
  (outside_cons.mpr hc).behind_gap w h.blank

theorem Parted.outside_listed {α : Type} (h : Parted accepts) (write : α → Text)
    (listed : List (Listed α)) (ht : Outside accepts t) :
    Outside accepts (listed.flatMap (Listed.text write) ++ t) := by
  cases listed with
  | nil => exact ht
  | cons l rest =>
      simp only [List.flatMap_cons, Listed.text, List.append_assoc, List.cons_append]
      exact h.outside_gap l.before h.comma

variable (h : Parted accepts)
  (helement : ∀ (a : Token accepts) (t : Text), Outside accepts t →
    Settles env level element (a.1 ++ t) (.ok (skipBlanks t) (value a.1)))
include h helement

theorem others_repeated (hlevel : 1 ≤ level) (others : List (Listed (Token accepts)))
    (ht : Outside accepts t) (hno : ¬[','] <+: skipBlanks t) :
    Answers.Repeated (Settles env (level + 1)) (sequence [comma, element] (.nth 1))
      (skipBlanks (others.flatMap (Listed.text Subtype.val) ++ t)) (skipBlanks t)
      (others.map fun l => value l.item.1) := by
  induction others with
  | nil =>
      have hnone : ¬[','] <+: skipBlanks (skipBlanks t) := by rwa [skipBlanks_idem]
      exact .stop (settles_noComma hlevel hnone)
  | cons l rest ih =>
      have hfollows := h.outside_listed Subtype.val rest ht
      have hitem := helement l.item _ hfollows
      rw [← skipBlanks_of_outside (h.outside_blank l.item), ← skipBlanks_gap l.after] at hitem
      rw [List.flatMap_cons, List.append_assoc, skipBlanks_listed]
      have hcomma : skipBlanks (',' :: (l.after.1 ++ (l.item.1 ++
          (rest.flatMap (Listed.text Subtype.val) ++ t)))) = _ :=
        skipBlanks_of_outside (outside_cons.mpr (by decide))
      refine .step (settles_behindComma hlevel hcomma hitem) ?_ ih
      have hmoved : ',' :: (l.after.1 ++ l.item.1) ≠ [] := List.cons_ne_nil _ _
      simpa using skipBlanks_ne_append hmoved

theorem tokens_settle (hlevel : 1 ≤ level) (s : Tokens accepts) (ht : Outside accepts t)
    (hno : ¬[','] <+: skipBlanks t) :
    Settles env (level + 2) (sepBy comma element) (s.text ++ t)
      (.ok (skipBlanks t) (.seq (s.items.map value))) := by
  have hfirst := helement s.first _ (h.outside_listed Subtype.val s.others ht)
  have hmoved := skipBlanks_ne_append (t := s.others.flatMap (Listed.text Subtype.val) ++ t)
    s.first.2.1
  have hrounds := others_repeated h helement hlevel s.others ht hno
  have hitems : Settles env (level + 2) (sepBy comma element) _ _ :=
    settles_of_gives trivial (.sepBy (hfirst.mono (by omega)) hmoved hrounds)
  simpa [Tokens.text, Tokens.items, Function.comp_def] using hitems

end Tokens

def Keyword.match (k : Keyword) : Match :=
  .seq [.leaf k.word.1, .leaf ['=']]

def Selector.match (s : Selector) : Match :=
  .seq [s.keyword.elim .empty Keyword.match, .labeled "Kind" (.leaf s.kind.1)]

def keywordPart : Parser :=
  sequence [lexeme word, symbol ['=']] .all

theorem keyword_settles (k : Keyword) :
    Settles env 3 keywordPart (k.text ++ t) (.ok (skipBlanks t) k.match) := by
  have hequals : skipBlanks (k.before.1 ++ '=' :: (k.after.1 ++ t)) =
      ['='] ++ (k.after.1 ++ t) := skipBlanks_gap_cons k.before (by decide)
  have hfollows : Outside isWordChar (k.before.1 ++ '=' :: (k.after.1 ++ t)) :=
    parted_word.outside_gap k.before (by decide)
  have hword : Settles env 2 (lexeme word) (k.word.1 ++ (k.before.1 ++ '=' :: (k.after.1 ++ t))) _ :=
    word_settles k.word hfollows
  have hsymbol : Settles env 1 (symbol ['='])
      (skipBlanks (k.before.1 ++ '=' :: (k.after.1 ++ t))) (.ok (skipBlanks t) (.leaf ['='])) := by
    rw [← skipBlanks_gap (t := t) k.after]
    exact settles_symbol rfl ((skipBlanks_idem _).trans hequals)
  have hpart : Settles env 3 keywordPart _ (.ok (skipBlanks t) k.match) :=
    settles_of_gives trivial
      (.sequence (.next hword (.next (hsymbol.mono (Nat.le_succ 1)) (.done _))) rfl)
  simpa [Keyword.text] using hpart

-- A word alone is no keyword, but is left for the kind.
theorem keyword_fails (a : Word) (ht : Outside isWordChar t) (hno : ¬['='] <+: skipBlanks t) :
    Settles env 3 keywordPart (a.1 ++ t) (.fail (a.1 ++ t)) := by
  have hsymbol : Settles env 1 (symbol ['=']) (skipBlanks t) _ :=
    settles_noSymbol rfl (by rwa [skipBlanks_idem])
  exact settles_of_gives trivial
    (.sequenceBroken (.broken (word_settles a ht) (.failed (hsymbol.mono (by omega)))))

theorem selector_settles (s : Selector) :
    Settles env 7 (lexeme selector) (s.text ++ t) (.ok (skipBlanks t) s.match) := by
  obtain ⟨keyword, kind, before, after⟩ := s
  have hclose : skipBlanks (before.1 ++ ')' :: (after.1 ++ t)) = ')' :: (after.1 ++ t) :=
    skipBlanks_gap_cons before (by decide)
  have hfollows : Outside isWordChar (before.1 ++ ')' :: (after.1 ++ t)) :=
    parted_word.outside_gap before (by decide)
  have hkind : Settles env 3 (label "Kind" (lexeme word)) _ _ :=
    settles_of_gives trivial (.label (word_settles kind hfollows))
  rw [hclose] at hkind
  have hkeyword : Settles env 4 (maybe keywordPart)
      (keyword.elim [] Keyword.text ++ (kind.1 ++ (before.1 ++ ')' :: (after.1 ++ t))))
      (.ok (kind.1 ++ (before.1 ++ ')' :: (after.1 ++ t))) (keyword.elim .empty Keyword.match)) := by
    cases keyword with
    | none =>
        have hno : ¬['='] <+: skipBlanks (before.1 ++ ')' :: (after.1 ++ t)) := by simp [hclose]
        exact settles_of_gives trivial (.maybeAbsent (keyword_fails kind hfollows hno))
    | some k =>
        have hk : Settles env 3 keywordPart
            (k.text ++ (kind.1 ++ (before.1 ++ ')' :: (after.1 ++ t)))) _ := keyword_settles k
        rw [skipBlanks_of_outside (parted_word.outside_blank kind)] at hk
        exact settles_of_gives trivial (.maybe hk)
  have hinside : Settles env 5 (sequence [maybe keywordPart, label "Kind" (lexeme word)] .all) _ _ :=
    settles_of_gives trivial
      (.sequence (.next hkeyword (.next (hkind.mono (by omega)) (.done _))) rfl)
  have hparens := settles_parens (by omega) hinside
  have hlexeme : Settles env 7 (lexeme selector) _ _ := settles_of_gives trivial (.lexeme hparens)
  rw [skipBlanks_gap] at hlexeme
  simpa [Selector.text, Selector.match] using hlexeme

def keywords : List Text :=
  "dimension".toList :: (typeNames ++ simpleAttributes)

-- No keyword begins another one that may stand in its place, and none begins with a blank.
theorem typeNames_free : ∀ a ∈ typeNames, ∀ b ∈ typeNames, a <+: b → a = b := by decide

theorem simpleAttributes_free :
    ∀ a ∈ simpleAttributes, ∀ b ∈ simpleAttributes, a <+: b → a = b := by decide

theorem dimension_free : ∀ a ∈ simpleAttributes,
    ¬a <+: "dimension".toList ∧ ¬"dimension".toList <+: a := by decide

theorem keyword_cons {name : Text} (h : name ∈ keywords) :
    ∃ c rest, name = c :: rest ∧ isBlank c = false ∧ c ≠ ',' := by
  have hheads : ∀ a ∈ keywords, (a.head?.any fun c => !isBlank c && c != ',') = true := by decide
  obtain ⟨c, hc, hgood⟩ := (Option.any_eq_true _ _).mp (hheads name h)
  obtain ⟨rest, rfl⟩ := List.head?_eq_some_iff.mp hc
  exact ⟨c, rest, rfl, by simpa using hgood⟩

theorem skipBlanks_keyword {name : Text} (h : name ∈ keywords) :
    skipBlanks (name ++ t) = name ++ t := by
  obtain ⟨c, rest, rfl, hc, -⟩ := keyword_cons h
  exact skipBlanks_of_outside (outside_cons.mpr hc)

theorem skipBlanks_dimension :
    skipBlanks ("dimension".toList ++ t) = "dimension".toList ++ t :=
  skipBlanks_keyword List.mem_cons_self

theorem skipBlanks_simple (name : {t : Text // t ∈ simpleAttributes}) :
    skipBlanks (name.1 ++ t) = name.1 ++ t :=
  skipBlanks_keyword (List.mem_cons_of_mem _ (List.mem_append_right _ name.2))

theorem type_mem_keywords (name : {t : Text // t ∈ typeNames}) : name.1 ∈ keywords :=
  List.mem_cons_of_mem _ (List.mem_append_left _ name.2)

def Attribute.match (a : Attribute) : Match :=
  match a with
  | .simple name => .labeled "Attr" (.leaf name.1)
  | .dimension _ _ =>
      .seq [.leaf "dimension".toList, .labeled "Shape" (.seq (a.extentNumerals.map .leaf))]

theorem extents_settle (extents : Option Extents) (t : Text) :
    Settles env 4 (sepBy comma (lexeme natural)) (extents.elim [] Extents.text ++ ')' :: t)
      (.ok (')' :: t) (.seq ((extents.elim [] (·.numerals.items)).map .leaf))) := by
  cases extents with
  | none =>
      have hnone : Settles env 1 natural (')' :: t) _ := settles_natural (')' :: t)
      have hlexeme : Settles env 2 (lexeme natural) (')' :: t) _ :=
        settles_of_gives trivial (.lexemeFailed hnone)
      have hitems : Settles env 3 (sepBy comma (lexeme natural)) (')' :: t) _ :=
        settles_of_gives trivial (.sepByAbsent hlexeme)
      exact hitems.mono (by omega)
  | some e =>
      have hclose : skipBlanks (e.after.1 ++ ')' :: t) = ')' :: t :=
        skipBlanks_gap_cons e.after (by decide)
      have hfollows : Outside isAsciiDigit (e.after.1 ++ ')' :: t) :=
        parted_digit.outside_gap e.after (by decide)
      have hitems : Settles env 4 (sepBy comma (lexeme natural)) _ _ :=
        tokens_settle parted_digit (fun a _ => numeral_settles a) (by omega) e.numerals hfollows
          (by simp [hclose])
      rw [hclose] at hitems
      simpa [Extents.text] using hitems

theorem dimension_settles (gap : Gap) (extents : Option Extents) :
    Settles env 7 dimension ((Attribute.dimension gap extents).text ++ t)
      (.ok t (Attribute.dimension gap extents).match) := by
  have hopen : skipBlanks (gap.1 ++ '(' :: (extents.elim [] Extents.text ++ ')' :: t)) =
      '(' :: (extents.elim [] Extents.text ++ ')' :: t) := skipBlanks_gap_cons gap (by decide)
  have hword : Settles env 1 (symbol "dimension".toList)
      ("dimension".toList ++ (gap.1 ++ '(' :: (extents.elim [] Extents.text ++ ')' :: t))) _ :=
    settles_symbol rfl skipBlanks_dimension
  rw [hopen] at hword
  have hshape : Settles env 5 (label "Shape" (sepBy comma (lexeme natural))) _ _ :=
    settles_of_gives trivial (.label (extents_settle extents t))
  have hparens := settles_parens (by omega) hshape
  have hdimension : Settles env 7 dimension _ (.ok t (Attribute.dimension gap extents).match) :=
    settles_of_gives trivial (.sequence (.next (hword.mono (by omega)) (.next hparens (.done _))) rfl)
  rw [Attribute.text_dimension]
  simpa only [List.append_assoc, List.cons_append, List.nil_append] using hdimension

theorem dimension_fails (hno : ¬"dimension".toList <+: skipBlanks t) :
    Settles env 7 dimension t (.fail t) := by
  have hword : Settles env 1 (symbol "dimension".toList) t _ := settles_noSymbol rfl hno
  have hfails : Settles env 2 dimension t _ :=
    settles_of_gives trivial (.sequenceBroken (.failed hword))
  exact hfails.mono (by omega)

theorem simple_settles (name : {t : Text // t ∈ simpleAttributes}) :
    Settles env 8 attributeSpec ((Attribute.simple name).text ++ t)
      (.ok (skipBlanks t) (Attribute.simple name).match) := by
  have hfront := skipBlanks_simple (t := t) name
  have hno : ¬"dimension".toList <+: skipBlanks (name.1 ++ t) := by
    rw [hfront]
    intro h
    obtain ⟨hleft, hright⟩ := dimension_free name.1 name.2
    rcases List.prefix_or_prefix_of_prefix h (List.prefix_append name.1 t) with h | h
    · exact hright h
    · exact hleft h
  have hname : Settles env 2 (oneOf simpleAttributes) (name.1 ++ t) _ :=
    settles_oneOf name.2 simpleAttributes_free hfront
  have hlabel : Settles env 3 (label "Attr" (oneOf simpleAttributes)) _ _ :=
    settles_of_gives trivial (.label hname)
  exact settles_of_gives trivial
    (.choice (.later (dimension_fails hno) (.here (hlabel.mono (by omega)))))

-- Behind a dimension the blanks are left, behind another attribute they are taken.
theorem attribute_settles (env : Env) (a : Attribute) (t : Text) :
    ∃ last, Settles env 8 attributeSpec (a.text ++ t) (.ok last a.match) ∧
      skipBlanks last = skipBlanks t ∧ last.length ≤ t.length := by
  cases a with
  | simple name =>
      exact ⟨_, simple_settles name, skipBlanks_idem t, (skipBlanks_suffix t).length_le⟩
  | dimension gap extents =>
      have hchoice : Settles env 8 attributeSpec _ (.ok t _) :=
        settles_of_gives trivial (.choice (.here (dimension_settles gap extents)))
      exact ⟨t, hchoice, rfl, Nat.le_refl _⟩

def attributeEntry : Parser :=
  sequence [comma, attributeSpec] .all

def Attribute.entryMatch (a : Attribute) : Match :=
  .seq [.leaf [','], a.match]

theorem Attribute.skipBlanks_text (a : Attribute) : skipBlanks (a.text ++ t) = a.text ++ t := by
  cases a with
  | simple name => exact skipBlanks_simple name
  | dimension gap extents =>
      rw [Attribute.text_dimension, List.append_assoc]
      exact skipBlanks_dimension

theorem attributes_repeated (env : Env) (attributes : List (Listed Attribute))
    (hu : skipBlanks u = skipBlanks (attributes.flatMap (Listed.text Attribute.text) ++ t))
    (hno : ¬[','] <+: skipBlanks t) :
    ∃ last, skipBlanks last = skipBlanks t ∧
      Answers.Repeated (Settles env 9) attributeEntry u last
        (attributes.map (·.item.entryMatch)) := by
  induction attributes generalizing u with
  | nil =>
      have hnone : ¬[','] <+: skipBlanks u := by rwa [hu]
      exact ⟨u, hu, .stop (settles_noComma (by omega) hnone)⟩
  | cons l rest ih =>
      rw [List.flatMap_cons, List.append_assoc, skipBlanks_listed] at hu
      obtain ⟨last, ha, hlast, hle⟩ :=
        attribute_settles env l.item (rest.flatMap (Listed.text Attribute.text) ++ t)
      have hcomma : Settles env 1 comma u _ := settles_comma hu
      rw [skipBlanks_gap, l.item.skipBlanks_text] at hcomma
      have hround : Settles env 9 attributeEntry u (.ok last l.item.entryMatch) :=
        settles_of_gives trivial (.sequence (.next (hcomma.mono (by omega)) (.next ha (.done _))) rfl)
      obtain ⟨final, hfinal, hrounds⟩ := ih hlast
      refine ⟨final, hfinal, .step hround ?_ hrounds⟩
      rintro rfl
      have hlength := congrArg List.length hu
      have hskipped := (skipBlanks_suffix last).length_le
      simp only [List.length_cons, List.length_append] at hlength hle
      omega

def nameMatch (name : Text) : Match :=
  .labeled "Var" (.leaf name)

def Statement.match (s : Statement) : Match :=
  .seq [.labeled "Type" (.leaf s.type.1), s.selector.elim .empty Selector.match,
    .seq (s.attributes.map (·.item.entryMatch)), .leaf [':', ':'],
    .seq (s.names.items.map nameMatch)]

theorem type_settles (type : {t : Text // t ∈ typeNames}) (t : Text) :
    Settles env 3 typeSpec (type.1 ++ t) (.ok (skipBlanks t) (.labeled "Type" (.leaf type.1))) :=
  settles_of_gives trivial
    (.label (settles_oneOf type.2 typeNames_free (skipBlanks_keyword (type_mem_keywords type))))

-- Where no parenthesis stands there is no kind.
theorem selectorPart_settles (selector? : Option Selector) (hopen : (skipBlanks t).head? ≠ some '(') :
    Settles env 8 (maybe (lexeme selector)) (skipBlanks (selector?.elim [] Selector.text ++ t))
      (.ok (skipBlanks t) (selector?.elim .empty Selector.match)) := by
  cases selector? with
  | none =>
      have hnone : Settles env 2 selector (skipBlanks t) _ := settles_unopened (Nat.le_refl 1) hopen
      have hlexeme : Settles env 3 (lexeme selector) (skipBlanks t) _ :=
        settles_of_gives trivial (.lexemeFailed hnone)
      have hmaybe : Settles env 4 (maybe (lexeme selector)) (skipBlanks t) _ :=
        settles_of_gives trivial (.maybeAbsent hlexeme)
      exact hmaybe.mono (by omega)
  | some s =>
      have hfront : skipBlanks (s.text ++ t) = s.text ++ t :=
        skipBlanks_of_outside (outside_cons.mpr (by decide))
      rw [Option.elim_some, hfront]
      exact settles_of_gives trivial (.maybe (selector_settles s))

-- The two halves of a statement, each with all that is written behind it.
def Statement.namesOn (s : Statement) (t : Text) : Text :=
  s.beforeColons.1 ++ ':' :: ':' :: (s.afterColons.1 ++ (s.names.text ++ t))

def Statement.attributesOn (s : Statement) (t : Text) : Text :=
  s.attributes.flatMap (Listed.text Attribute.text) ++ s.namesOn t

theorem Statement.text_append (s : Statement) (t : Text) : s.text ++ t =
    s.type.1 ++ (s.afterType.1 ++ (s.selector.elim [] Selector.text ++ s.attributesOn t)) := by
  simp only [text, attributesOn, namesOn, List.append_assoc, List.cons_append]

theorem Statement.skipBlanks_namesOn (s : Statement) :
    skipBlanks (s.namesOn t) = ':' :: ':' :: (s.afterColons.1 ++ (s.names.text ++ t)) :=
  skipBlanks_gap_cons s.beforeColons (by decide)

theorem Statement.attributesOn_head (s : Statement) (t : Text) :
    (skipBlanks (s.attributesOn t)).head? ≠ some '(' := by
  unfold attributesOn
  cases s.attributes with
  | nil => simp [s.skipBlanks_namesOn]
  | cons l rest => simp [skipBlanks_listed]

theorem attributesOn_settles (env : Env) (s : Statement) (t : Text) :
    ∃ last, Settles env 10 (many attributeEntry) (skipBlanks (s.attributesOn t))
        (.ok last (.seq (s.attributes.map (·.item.entryMatch)))) ∧
      skipBlanks last = skipBlanks (s.namesOn t) := by
  have hno : ¬[','] <+: skipBlanks (s.namesOn t) := by simp [s.skipBlanks_namesOn]
  obtain ⟨last, hlast, hrounds⟩ :=
    attributes_repeated env s.attributes (skipBlanks_idem (s.attributesOn t)) hno
  exact ⟨last, settles_of_gives trivial (.many hrounds), hlast⟩

theorem colons_settle (s : Statement) {last : Text}
    (hlast : skipBlanks last = skipBlanks (s.namesOn t)) :
    Settles env 1 (symbol [':', ':']) last (.ok (s.names.text ++ t) (.leaf [':', ':'])) := by
  have hname : skipBlanks (s.names.text ++ t) = s.names.text ++ t := by
    rw [Tokens.text, List.append_assoc]
    exact skipBlanks_of_outside (parted_word.outside_blank s.names.first)
  rw [← hname, ← skipBlanks_gap s.afterColons]
  exact settles_symbol rfl (hlast.trans s.skipBlanks_namesOn)

-- What may come behind a statement: no further character of its last name, and no further name.
structure Follows (t : Text) : Prop where
  outside : Outside isWordChar t
  noComma : ¬[','] <+: skipBlanks t

theorem names_settle (s : Statement) (ht : Follows t) :
    Settles env 5 (sepBy comma (label "Var" (lexeme word))) (s.names.text ++ t)
      (.ok (skipBlanks t) (.seq (s.names.items.map nameMatch))) := by
  have hname : ∀ (a : Word) (t : Text), Outside isWordChar t →
      Settles env 3 (label "Var" (lexeme word)) (a.1 ++ t) (.ok (skipBlanks t) (nameMatch a.1)) :=
    fun a _ ht => settles_of_gives trivial (.label (word_settles a ht))
  exact tokens_settle parted_word hname (by omega) s.names ht.outside ht.noComma

theorem statement_settles (s : Statement) (ht : Follows t) :
    Settles env 11 declaration (s.text ++ t) (.ok (skipBlanks t) s.match) := by
  rw [s.text_append]
  have htype : Settles env 3 typeSpec _ _ := type_settles s.type
    (s.afterType.1 ++ (s.selector.elim [] Selector.text ++ s.attributesOn t))
  rw [skipBlanks_gap] at htype
  have hselector : Settles env 8 (maybe (lexeme selector)) _ _ :=
    selectorPart_settles s.selector (s.attributesOn_head t)
  obtain ⟨last, hattributes, hlast⟩ := attributesOn_settles env s t
  have hcolons : Settles env 1 (symbol [':', ':']) last _ := colons_settle s hlast
  have hnames : Settles env 5 (sepBy comma (label "Var" (lexeme word))) _ _ := names_settle s ht
  exact settles_of_gives trivial
    (.sequence
      (.next (htype.mono (by omega)) (.next (hselector.mono (by omega)) (.next hattributes
        (.next (hcolons.mono (by omega)) (.next (hnames.mono (by omega)) (.done _))))))
      rfl)

def Statement.labeledMatch (s : Statement) : Match :=
  .labeled "Decl" s.match

def Source.match (s : Source) : Match :=
  .seq [.empty, .seq ((list s.statements).map Statement.labeledMatch)]

theorem Statement.skipBlanks_text (s : Statement) : skipBlanks (s.text ++ t) = s.text ++ t := by
  rw [s.text_append]
  exact skipBlanks_keyword (type_mem_keywords s.type)

theorem Statement.text_ne_nil (s : Statement) : s.text ≠ [] := by
  obtain ⟨c, rest, htype, -⟩ := keyword_cons (type_mem_keywords s.type)
  simp [Statement.text, htype]

theorem Statement.noComma (s : Statement) : ¬[','] <+: s.text ++ t := by
  obtain ⟨c, rest, htype, -, hc⟩ := keyword_cons (type_mem_keywords s.type)
  simpa [Statement.text, htype] using hc.symm

theorem labeled_settles (s : Statement) (ht : Follows t) :
    Settles env 12 (label "Decl" declaration) (s.text ++ t)
      (.ok (skipBlanks t) s.labeledMatch) :=
  settles_of_gives trivial (.label (statement_settles s ht))

theorem declaration_fails : Settles env 12 (label "Decl" declaration) [] (.fail []) := by
  have hnone : Settles env 2 (oneOf typeNames) [] _ := settles_noneOf (by decide)
  have htype : Settles env 3 typeSpec [] _ := settles_of_gives trivial (.labelFailed hnone)
  have hdeclaration : Settles env 4 declaration [] _ :=
    settles_of_gives trivial (.sequenceBroken (.failed htype))
  have hlabel : Settles env 5 (label "Decl" declaration) [] _ :=
    settles_of_gives trivial (.labelFailed hdeclaration)
  exact hlabel.mono (by omega)

theorem skipBlanks_back (w : Gap) : skipBlanks w.1 = [] := by
  have h := skipBlanks_gap (t := []) w
  rwa [List.append_nil] at h

theorem follows_written (others : List Further) (back : Gap) :
    Follows (others.flatMap Further.text ++ back.1) := by
  cases others with
  | nil =>
      refine ⟨?_, ?_⟩
      · have hnil : Outside isWordChar [] := outside_nil
        simpa using hnil.behind_gap back parted_word.blank
      · simp [skipBlanks_back]
  | cons f rest =>
      obtain ⟨c, gap, hgap⟩ := List.exists_cons_of_ne_nil f.apart
      have hc : isBlank c = true := f.gap.2 c (by simp [hgap])
      refine ⟨?_, ?_⟩
      · simp [Further.text, hgap, parted_word.blank c hc]
      · rw [List.flatMap_cons, List.append_assoc, Further.text, List.append_assoc, skipBlanks_gap,
          f.statement.skipBlanks_text]
        exact f.statement.noComma

theorem further_repeated (others : List Further) (back : Gap) :
    Answers.Repeated (Settles env 12) (label "Decl" declaration)
      (skipBlanks (others.flatMap Further.text ++ back.1)) []
      (others.map (·.statement.labeledMatch)) := by
  induction others with
  | nil =>
      rw [List.flatMap_nil, List.nil_append, skipBlanks_back]
      exact .stop declaration_fails
  | cons f rest ih =>
      rw [List.flatMap_cons, List.append_assoc, Further.text, List.append_assoc, skipBlanks_gap,
        f.statement.skipBlanks_text]
      exact .step (labeled_settles f.statement (follows_written rest back))
        (skipBlanks_ne_append f.statement.text_ne_nil) ih

theorem statements_repeated (statements : Option (Statement × List Further)) (back : Gap) :
    Answers.Repeated (Settles env 12) (label "Decl" declaration)
      (skipBlanks (Source.written statements ++ back.1)) []
      ((Source.list statements).map Statement.labeledMatch) := by
  rcases statements with _ | ⟨first, others⟩
  · exact further_repeated [] back
  · rw [Source.written, Source.list, List.append_assoc, first.skipBlanks_text, List.map_cons,
      List.map_map]
    exact .step (labeled_settles first (follows_written others back))
      (skipBlanks_ne_append first.text_ne_nil) (further_repeated others back)

theorem source_settles (s : Source) : Settles env 14 grammar s.text (.ok [] s.match) := by
  have hblanks : Settles env 1 whiteSpace s.text _ := settles_of_gives trivial (.whiteSpace s.text)
  rw [Source.text, skipBlanks_gap] at hblanks
  have hmany : Settles env 13 (many (label "Decl" declaration)) _ _ :=
    settles_of_gives trivial (.many (statements_repeated s.statements s.back))
  exact settles_of_gives trivial
    (.sequence (.next (hblanks.mono (by omega)) (.next hmany (.done _))) rfl)

end Descent.Example.Declarations
