import Descent.Proofs.Declarations.Contents
import Descent.Proofs.Deciding
import Descent.Proofs.Outcomes
import Mathlib.Data.Set.List

namespace Descent.Example.Declarations

open Descent.Parser Descent.Text

-- What normalizing promises of a record, whatever the source.
structure Record.Regular (r : Record) : Prop where
  type : ∃ name ∈ typeNames, r.type = .text name
  kind : ∀ k, r.kind = some k → ∃ a : Word, k = .text a.1
  attributes : ∀ a ∈ r.attributes, ∃ name ∈ simpleAttributes, a = .text name
  names : ∀ n ∈ r.names, ∃ a : Word, n = .text a.1

-- The record that comes of the match of a declaration.
def ReadFrom (m : Match) (r : Record) : Prop :=
  ∃ tree, Tree.ofMatch m = .ok (some tree) ∧ Record.ofTree tree = .ok r

namespace Contents

theorem regular (c : Contents) : c.record.Regular where
  type := ⟨c.type.1, c.type.2, rfl⟩
  kind k hk := by
    obtain ⟨selector, -, rfl⟩ := Option.map_eq_some_iff.mp hk
    exact ⟨selector.kind, rfl⟩
  attributes a ha := by
    obtain ⟨name, hname, rfl⟩ := List.mem_map.mp ha
    obtain ⟨part, -, hsimple⟩ := List.mem_flatMap.mp hname
    cases part with
    | simple simple =>
        obtain rfl : name = simple.1 := List.mem_singleton.mp hsimple
        exact ⟨simple.1, simple.2, rfl⟩
    | dimension gap extents => cases hsimple
  names n hn := by
    obtain ⟨name, hname, rfl⟩ := List.mem_map.mp hn
    obtain ⟨a, -, rfl⟩ := List.mem_map.mp hname
    exact ⟨a, rfl⟩

theorem readFrom (c : Contents) : ReadFrom c.match c.record := by
  obtain ⟨entries, hbuilt, -, hrecord⟩ := c.built
  exact ⟨.dict entries, hbuilt, hrecord⟩

end Contents

section

variable {env : Env}

def noGap : Gap :=
  Gap.of [] rfl

theorem exists_map_eq {α : Type} {write : α → Match} {ms : List Match}
    (h : ∀ m ∈ ms, ∃ a, m = write a) : ∃ as : List α, ms = as.map write := by
  have hrange : ms ∈ Set.range (List.map write) := by
    rw [Set.range_list_map]
    intro m hm
    obtain ⟨a, ha⟩ := h m hm
    exact ⟨a, ha.symm⟩
  obtain ⟨as, has⟩ := hrange
  exact ⟨as, has.symm⟩

theorem word_decides : Decides env 2 (lexeme word) 1 fun m => ∃ a : Word, m = .leaf a.1 :=
  (decides_run settles_word).lexeme

theorem typeSpec_decides : Decides env 3 typeSpec 1 fun m =>
    ∃ type : {t : Text // t ∈ typeNames}, m = .labeled "Type" (.leaf type.1) := by
  have hlengths : ∀ name ∈ typeNames, 1 ≤ name.length := by decide
  refine ((decides_oneOf hlengths).label "Type").mono (Nat.le_refl 3) (Nat.le_refl 1) ?_
  rintro m ⟨_, ⟨name, hname, rfl⟩, rfl⟩
  exact ⟨⟨name, hname⟩, rfl⟩

theorem keyword_decides : Decides env 3 keywordPart 1 fun m => ∃ k : Keyword, m = k.match := by
  have hequals : Decides env 2 (symbol ['=']) 1 _ := decides_symbol rfl (by omega) (by decide)
  refine (word_decides.cons (hequals.cons decidesAll_nil)).sequence rfl (by omega) ?_
  rintro ms ⟨_, _, ⟨a, rfl⟩, ⟨_, _, rfl, rfl, rfl⟩, rfl⟩
  exact ⟨_, rfl, ⟨a, noGap, noGap⟩, rfl⟩

theorem selector_decides : Decides env 6 selector 1 fun m => ∃ s : Selector, m = s.match := by
  have hkind : Decides env 4 (label "Kind" (lexeme word)) 1 _ :=
    (word_decides.label "Kind").level_mono (by omega)
  have hinside : Decides env 5 (sequence [maybe keywordPart, label "Kind" (lexeme word)] .all) 0
      fun m => ∃ s : Selector, m = s.match := by
    refine (keyword_decides.maybe.cons (hkind.cons decidesAll_nil)).sequence rfl (by omega) ?_
    rintro ms ⟨_, _, hkeyword, ⟨_, _, ⟨_, ⟨a, rfl⟩, rfl⟩, rfl, rfl⟩, rfl⟩
    rcases hkeyword with rfl | ⟨k, rfl⟩
    · exact ⟨_, rfl, ⟨none, a, noGap, noGap⟩, rfl⟩
    · exact ⟨_, rfl, ⟨some k, a, noGap, noGap⟩, rfl⟩
  exact (hinside.parens (by omega)).mono (Nat.le_refl 6) (by omega) fun _ hm => hm

theorem shape_decides : Decides env 5 (label "Shape" (sepBy comma (lexeme natural))) 0 fun m =>
    ∃ extents : Option Extents,
      m = .labeled "Shape" (.seq ((Attribute.dimension noGap extents).extentNumerals.map .leaf)) := by
  have hcomma : Decides env 2 comma 1 _ := decides_symbol rfl (by omega) (by decide)
  have hnatural : Decides env 2 (lexeme natural) 1 fun m =>
    ∃ a : Token isAsciiDigit, m = .leaf a.1 := (decides_run settles_natural).lexeme
  refine ((hcomma.sepBy hnatural).label "Shape").mono (Nat.le_refl 5) (Nat.le_refl 0) ?_
  rintro m ⟨_, ⟨ms, rfl, hms⟩, rfl⟩
  obtain ⟨numerals, rfl⟩ := exists_map_eq hms
  cases numerals with
  | nil => exact ⟨none, rfl⟩
  | cons first others =>
      refine ⟨some ⟨⟨first, others.map (⟨noGap, noGap, ·⟩)⟩, noGap⟩, ?_⟩
      simp [Attribute.extentNumerals, Tokens.items, Function.comp_def]

theorem dimension_decides : Decides env 7 dimension 1 fun m => ∃ a : Attribute, m = a.match := by
  have hword : Decides env 6 (symbol "dimension".toList) 9 _ :=
    decides_symbol rfl (by omega) (by decide)
  have hparens : Decides env 6 (parens (label "Shape" (sepBy comma (lexeme natural)))) 2 _ :=
    shape_decides.parens (by omega)
  refine (hword.cons (hparens.cons decidesAll_nil)).sequence rfl (by omega) ?_
  rintro ms ⟨_, _, rfl, ⟨_, _, ⟨extents, rfl⟩, rfl, rfl⟩, rfl⟩
  exact ⟨_, rfl, .dimension noGap extents, rfl⟩

theorem attributeSpec_decides : Decides env 8 attributeSpec 1 fun m =>
    ∃ a : Attribute, m = a.match := by
  have hlengths : ∀ name ∈ simpleAttributes, 1 ≤ name.length := by decide
  have hsimple : Decides env 7 (label "Attr" (oneOf simpleAttributes)) 1 fun m =>
      ∃ a : Attribute, m = a.match := by
    refine ((decides_oneOf hlengths).label "Attr").mono (by omega) (Nat.le_refl 1) ?_
    rintro m ⟨_, ⟨name, hname, rfl⟩, rfl⟩
    exact ⟨.simple ⟨name, hname⟩, rfl⟩
  exact .choice rfl (by simpa using ⟨dimension_decides, hsimple⟩)

theorem attributeEntry_decides : Decides env 9 attributeEntry 1 fun m =>
    ∃ a : Attribute, m = a.entryMatch := by
  have hcomma : Decides env 8 comma 1 _ := decides_symbol rfl (by omega) (by decide)
  refine (hcomma.cons (attributeSpec_decides.cons decidesAll_nil)).sequence rfl (by omega) ?_
  rintro ms ⟨_, _, rfl, ⟨_, _, ⟨a, rfl⟩, rfl, rfl⟩, rfl⟩
  exact ⟨_, rfl, a, rfl⟩

-- The parts of a declaration that may be missing.
theorem selectorPart_decides : Decides env 8 (maybe (lexeme selector)) 0 fun m =>
    ∃ selector? : Option Selector, m = selector?.elim .empty Selector.match := by
  refine selector_decides.lexeme.maybe.mono (Nat.le_refl 8) (Nat.le_refl 0) ?_
  rintro m (rfl | ⟨s, rfl⟩)
  · exact ⟨none, rfl⟩
  · exact ⟨some s, rfl⟩

theorem attributes_decide : Decides env 10 (many attributeEntry) 0 fun m =>
    ∃ attributes : List Attribute, m = .seq (attributes.map Attribute.entryMatch) := by
  refine attributeEntry_decides.many.mono (Nat.le_refl 10) (Nat.le_refl 0) ?_
  rintro m ⟨ms, rfl, hms⟩
  obtain ⟨attributes, rfl⟩ := exists_map_eq hms
  exact ⟨attributes, rfl⟩

theorem names_decide : Decides env 5 (sepBy comma (label "Var" (lexeme word))) 0 fun m =>
    ∃ names : List Word, m = .seq (names.map fun a => nameMatch a.1) := by
  have hcomma : Decides env 3 comma 1 _ := decides_symbol rfl (by omega) (by decide)
  refine (hcomma.sepBy (word_decides.label "Var")).mono (Nat.le_refl 5) (Nat.le_refl 0) ?_
  rintro m ⟨ms, rfl, hms⟩
  have hnames : ∀ m ∈ ms, ∃ a : Word, m = nameMatch a.1 := by
    intro m hm
    obtain ⟨_, ⟨a, rfl⟩, rfl⟩ := hms m hm
    exact ⟨a, rfl⟩
  obtain ⟨names, rfl⟩ := exists_map_eq hnames
  exact ⟨names, rfl⟩

theorem declaration_decides : Decides env 11 declaration 1 fun m => ∃ c : Contents, m = c.match := by
  have htype : Decides env 10 typeSpec 1 _ := typeSpec_decides.level_mono (by omega)
  have hselector : Decides env 10 (maybe (lexeme selector)) 0 _ :=
    selectorPart_decides.level_mono (by omega)
  have hcolons : Decides env 10 (symbol [':', ':']) 2 _ := decides_symbol rfl (by omega) (by decide)
  have hnames : Decides env 10 (sepBy comma (label "Var" (lexeme word))) 0 _ :=
    names_decide.level_mono (by omega)
  have hall := htype.cons (hselector.cons (attributes_decide.cons (hcolons.cons
    (hnames.cons decidesAll_nil))))
  refine hall.sequence rfl (by omega) ?_
  rintro ms ⟨_, _, ⟨type, rfl⟩, ⟨_, _, ⟨selector?, rfl⟩, ⟨_, _, ⟨attributes, rfl⟩,
    ⟨_, _, rfl, ⟨_, _, ⟨names, rfl⟩, rfl, rfl⟩, rfl⟩, rfl⟩, rfl⟩, rfl⟩
  refine ⟨_, rfl, ⟨type, selector?, attributes, names⟩, ?_⟩
  rw [Contents.match, Contents.nameTexts, List.map_map]
  rfl

theorem labeled_decides : Decides env 12 (label "Decl" declaration) 1 fun m =>
    ∃ c : Contents, m = c.labeledMatch := by
  refine (declaration_decides.label "Decl").mono (Nat.le_refl 12) (Nat.le_refl 1) ?_
  rintro m ⟨_, ⟨c, rfl⟩, rfl⟩
  exact ⟨c, rfl⟩

-- Where one more declaration was in vain, there is none.
theorem declaration_fails_behind {rest : Text}
    (hlabel : Settles env 12 (label "Decl" declaration) rest (.fail rest)) :
    Settles env 11 declaration rest (.fail rest) := by
  rcases declaration_decides rest with hfail | ⟨u, m, hok, -⟩
  · exact hfail
  · have hlabeled : Settles env 12 (label "Decl" declaration) rest _ :=
      settles_of_gives trivial (.label hok)
    cases hlabel.unique hlabeled

theorem declarations_taken (env : Env) (source : Text) : ∃ (contents : List Contents) (rest : Text),
    Answers.Repeated (Settles env 12) (label "Decl" declaration) (skipBlanks source) rest
      (contents.map Contents.labeledMatch) ∧
    Settles env 11 declaration rest (.fail rest) ∧
    Settles env 14 grammar source
      (.ok rest (.seq [.empty, .seq (contents.map Contents.labeledMatch)])) := by
  obtain ⟨rest, ms, hrounds, -, hms⟩ := labeled_decides.rounds (skipBlanks source)
  obtain ⟨contents, rfl⟩ := exists_map_eq hms
  have hend := declaration_fails_behind (labeled_decides.fails_behind (Nat.zero_lt_one) hrounds)
  have hblanks : Settles env 1 whiteSpace source _ := settles_of_gives trivial (.whiteSpace source)
  have hmany : Settles env 13 (many (label "Decl" declaration)) _ _ :=
    settles_of_gives trivial (.many hrounds)
  exact ⟨contents, rest, hrounds, hend,
    settles_of_gives trivial (.sequence (.next (hblanks.mono (by omega)) (.next hmany (.done rest))) rfl)⟩

end

-- Every source within the limit of size is either brought into records, one for each declaration that
-- the repetition took, or reported as incomplete at the text on which the next declaration fails.
theorem parse_total [CharNames] (source : Text) (hsize : source.length ≤ Runner.defaultSourceSize) :
    ∃ (declared : List Match) (rest : Text),
      Answers.Repeated (Settles env 12) (label "Decl" declaration) (skipBlanks source) rest
        (declared.map (.labeled "Decl")) ∧
      Settles env 11 declaration rest (.fail rest) ∧
      ((skipBlanks rest = [] ∧ ∃ built records, (parse source).outcome = .ok built ∧
          normalize built = .ok records ∧ List.Forall₂ ReadFrom declared records ∧
          ∀ r ∈ records, r.Regular) ∨
        (skipBlanks rest ≠ [] ∧ ∃ stop, (parse source).outcome = .error (.incomplete stop) ∧
          stop.source = source ∧ stop.remaining = rest)) := by
  obtain ⟨contents, rest, hrounds, hend, hgrammar⟩ := declarations_taken env source
  have hlabeled : contents.map Contents.labeledMatch =
      (contents.map Contents.match).map (.labeled "Decl") := by
    rw [List.map_map]
    rfl
  have hrun := hgrammar.outcome nestingLimit (by decide)
  have hfits : ¬Runner.standard.Refuses source := fun h => absurd h.2 (Int.not_lt.mpr hsize)
  have hparse : (parse source).outcome = (Runner.standard.finish source
      (.ok rest (.seq [.empty, .seq (contents.map Contents.labeledMatch)]))).outcome := by
    rw [parse, Runner.outcome_parse hfits, hrun]
    rfl
  refine ⟨contents.map Contents.match, rest, hlabeled ▸ hrounds, hend, ?_⟩
  -- The runner looks at nothing but whether blanks alone are left.
  by_cases hspent : skipBlanks rest = []
  · have hgenuine : (Match.seq [.empty, .seq (contents.map Contents.labeledMatch)]).Genuine := by
      have hdecl : ∀ c : Contents, c.labeledMatch.Genuine := fun c => c.genuine.labeled
      simp [hdecl]
    obtain ⟨built, hbuilt, hfinish⟩ : ∃ built, Tree.ofMatch _ = .ok built ∧
        (Runner.standard.finish source _).outcome = .ok built :=
      Runner.finish_done (fun h => h.2 hspent) hgenuine
    have hrecords : List.Forall₂ ReadFrom (contents.map Contents.match)
        (contents.map Contents.record) := by
      rw [List.forall₂_map_left_iff, List.forall₂_map_right_iff]
      exact List.forall₂_same.mpr fun c _ => c.readFrom
    refine .inl ⟨hspent, built, contents.map Contents.record, hparse.trans hfinish,
      Contents.normalize_built contents hbuilt, hrecords, ?_⟩
    intro r hr
    obtain ⟨c, -, rfl⟩ := List.mem_map.mp hr
    exact c.regular
  · have hcomplete : Runner.standard.requireComplete = true := rfl
    obtain ⟨span, context, -, hfinish⟩ :=
      Runner.finish_leftover _ hcomplete hspent hgrammar.suffix
    exact .inr ⟨hspent, _, hparse.trans hfinish, rfl, rfl⟩

-- A line that is no declaration, behind one that is; and a declaration of two shapes and no names.
attribute [local instance] CharNames.nameless

theorem parse_total_lines :
    ("real::x\nend".toList.length : Int) ≤ Runner.defaultSourceSize ∧
      (∃ stop, (parse "real::x\nend".toList).outcome = .error (.incomplete stop) ∧
        stop.remaining = "end".toList ∧
        Settles env 11 declaration "end".toList (.fail "end".toList)) ∧
      ∃ built records, (parse "real,dimension(3),dimension(2)::".toList).outcome = .ok built ∧
        normalize built = .ok records ∧ ∀ r ∈ records, r.Regular := by
  have hlines : ∃ stop, (parse "real::x\nend".toList).outcome = .error (.incomplete stop) ∧
      stop.remaining = "end".toList := ⟨_, rfl, rfl⟩
  have hshapes : ∃ built, (parse "real,dimension(3),dimension(2)::".toList).outcome = .ok built :=
    ⟨_, rfl⟩
  refine ⟨by decide, ?_, ?_⟩
  · obtain ⟨stop, hstop, hremaining⟩ := hlines
    obtain ⟨_, rest, -, hend, ⟨-, _, _, hparsed, -⟩ | ⟨-, _, hparsed, -, rfl⟩⟩ :=
      parse_total "real::x\nend".toList (by decide)
    · cases hstop.symm.trans hparsed
    · cases hstop.symm.trans hparsed
      exact ⟨stop, hstop, hremaining, hremaining ▸ hend⟩
  · obtain ⟨_, hbuilt⟩ := hshapes
    obtain ⟨_, _, -, -, ⟨-, built, records, hparsed, hnormal, -, hregular⟩ | ⟨-, _, hparsed, -⟩⟩ :=
      parse_total "real,dimension(3),dimension(2)::".toList (by decide)
    · exact ⟨built, records, hparsed, hnormal, hregular⟩
    · cases hbuilt.symm.trans hparsed

end Descent.Example.Declarations
