import ChartParsing.Proofs.Alternatives
import ChartParsing.Proofs.Concatenation

/-!
# Balanced brackets

A grammar with an empty rule in each pair of brackets is compared with the balanced words, which are defined without
it. Balanced words are derived, and by the closure of the rules nothing else is. No balanced word is a proper beginning
of another one, and an opening bracket tells which rule it belongs to. The empty rule is served in time, so the outcome
of a text tells whether the text is balanced, whether it can still become so, or neither.
-/

namespace ChartParsing

namespace Brackets

/-- The kinds of brackets. -/
def kinds : List (Char × Char) := [('(', ')'), ('[', ']'), ('{', '}'), ('<', '>')]

/-- An opening bracket, any number of balanced words, and the closing bracket of the same kind. -/
inductive Balanced : List Char → Prop
  | enclose {o c : Char} {words : List (List Char)} (hkind : (o, c) ∈ kinds)
      (hwords : ∀ word ∈ words, Balanced word) : Balanced (o :: (words.flatten ++ [c]))

theorem balanced_pair {o c : Char} (h : (o, c) ∈ kinds) : Balanced [o, c] := @Balanced.enclose o c [] h (by simp)

example : Balanced "([]{<>})".toList := by
  have hinner : Balanced ['{', '<', '>', '}'] :=
    @Balanced.enclose '{' '}' [['<', '>']] (by decide) (by simpa using balanced_pair (by decide))
  refine @Balanced.enclose '(' ')' [['[', ']'], ['{', '<', '>', '}']] (by decide) fun word hword => ?_
  rcases List.mem_pair.1 hword with rfl | rfl
  · exact balanced_pair (by decide)
  · exact hinner

/-! ## No balanced word begins another one -/

theorem opening_ne_closing {o c o' c' : Char} (h : (o, c) ∈ kinds) (h' : (o', c') ∈ kinds) : o ≠ c' := by
  have hkinds : ∀ kind ∈ kinds, ∀ kind' ∈ kinds, kind.1 ≠ kind'.2 := by decide
  exact hkinds _ h _ h'

/-- Words that are recognized by their beginnings are so one after the other, up to a bracket that closes. -/
theorem flatten_inj {words words' : List (List Char)} {u u' : List Char} {o c o' c' : Char}
    (hinj : ∀ word ∈ words, ∀ word' u u', Balanced word' → word ++ u = word' ++ u' → word = word')
    (hwords : ∀ word ∈ words, Balanced word) (hwords' : ∀ word ∈ words', Balanced word) (hc : (o, c) ∈ kinds)
    (hc' : (o', c') ∈ kinds) (h : words.flatten ++ c :: u = words'.flatten ++ c' :: u') :
    words.flatten = words'.flatten ∧ c = c' := by
  induction words generalizing words' with
  | nil =>
    cases words' with
    | nil => exact ⟨rfl, by simpa using (List.cons.inj h).1⟩
    | cons word' words' =>
      obtain ⟨hkind, -⟩ := hwords' word' List.mem_cons_self
      exact absurd (List.cons.inj h).1.symm (opening_ne_closing hkind hc)
  | cons word words ih =>
    cases words' with
    | nil =>
      obtain ⟨hkind, -⟩ := hwords word List.mem_cons_self
      exact absurd (List.cons.inj h).1 (opening_ne_closing hkind hc')
    | cons word' words' =>
      rw [List.flatten_cons, List.flatten_cons, List.append_assoc, List.append_assoc] at h
      obtain rfl := hinj word List.mem_cons_self word' _ _ (hwords' word' List.mem_cons_self) h
      obtain ⟨hflatten, hclosing⟩ := ih (fun w hw => hinj w (List.mem_cons_of_mem _ hw))
        (fun w hw => hwords w (List.mem_cons_of_mem _ hw)) (fun w hw => hwords' w (List.mem_cons_of_mem _ hw))
        (List.append_cancel_left h)
      exact ⟨by rw [List.flatten_cons, List.flatten_cons, hflatten], hclosing⟩

theorem Balanced.eq_of_append_eq_append {cs cs' u u' : List Char} (h : Balanced cs) (h' : Balanced cs')
    (heq : cs ++ u = cs' ++ u') : cs = cs' := by
  induction h generalizing cs' u u' with
  | @enclose o c words hkind hwords ih =>
    cases h' with
    | @enclose o' c' words' hkind' hwords' =>
      simp only [List.cons_append, List.append_assoc, List.nil_append, List.cons.injEq] at heq
      obtain ⟨rfl, heq⟩ := heq
      obtain ⟨hflatten, rfl⟩ := flatten_inj (fun word hword word' u u' => ih word hword) hwords hwords' hkind hkind' heq
      rw [hflatten]

theorem Balanced.ne_nil {cs : List Char} (h : Balanced cs) : cs ≠ [] := by
  obtain ⟨-, -⟩ := h
  exact List.cons_ne_nil _ _

/-! ## The grammar -/

/-- The symbol that asks for a character. -/
def literal (c : Char) : Symbol := .terminal (.literal (String.singleton c))

/-- The rule of a kind of brackets. -/
def pair (o c : Char) : Rule := ⟨"P", [literal o, .nonterminal "Ps", literal c], .list⟩

def nothing : Rule := ⟨"Ps", [], .list⟩

def another : Rule := ⟨"Ps", [.nonterminal "Ps", .nonterminal "P"], .list⟩

def rules : List Rule := kinds.map (fun kind => pair kind.1 kind.2) ++ [nothing, another]

def grammar : Grammar := .rooted "P" (pair '(' ')') rules.tail

theorem ofRules_rules : Grammar.ofRules rules = .ok grammar := rfl

theorem mem_rules {r : Rule} :
    r ∈ grammar.rules ↔ (∃ o c, (o, c) ∈ kinds ∧ r = pair o c) ∨ r = nothing ∨ r = another := by
  have hrules : grammar.rules = rules.toArray := rfl
  rw [hrules, List.mem_toArray, rules, List.mem_append, List.mem_map, List.mem_pair]
  simp only [Prod.exists, eq_comm]

/-- The values of the tokens are these characters. -/
def Spells (w : List BoundToken) (cs : List Char) : Prop :=
  w.map (fun b => b.token.value.asString?) = cs.map fun c => some (String.singleton c)

namespace Spells

variable {w w' : List BoundToken} {cs cs' : List Char}

theorem nil : Spells [] [] := rfl

theorem append (h : Spells w cs) (h' : Spells w' cs') : Spells (w ++ w') (cs ++ cs') := by
  rw [Spells, List.map_append, List.map_append, h, h']

theorem inj (h : Spells w cs) (h' : Spells w cs') : cs = cs' := by
  have hinjective : Function.Injective fun c => some (String.singleton c) := by
    intro c c' heq
    have htoList := congrArg String.toList (Option.some.inj heq)
    simpa using htoList
  exact List.map_injective_iff.2 hinjective (h.symm.trans h')

/-- Tokens for one word behind another are tokens for the one and behind them for the other. -/
theorem exists_of_append (h : Spells w (cs ++ cs')) : ∃ u u', w = u ++ u' ∧ Spells u cs ∧ Spells u' cs' := by
  rw [Spells, List.map_append] at h
  obtain ⟨u, u', rfl, hu, hu'⟩ := List.map_eq_append_iff.1 h
  exact ⟨u, u', rfl, hu, hu'⟩

/-- Characters for tokens behind others begin with those of the others. -/
theorem exists_append (h : Spells (w ++ w') cs) : ∃ u u', cs = u ++ u' ∧ Spells w u ∧ Spells w' u' := by
  rw [Spells, List.map_append] at h
  obtain ⟨u, u', rfl, hu, hu'⟩ := List.map_eq_append_iff.1 h.symm
  exact ⟨u, u', rfl, hu.symm, hu'.symm⟩

theorem exists_token (c : Char) : ∃ b, Spells [b] [c] :=
  ⟨⟨.untyped (.str (String.singleton c)) 0, .null⟩, rfl⟩

theorem exists_tokens (cs : List Char) : ∃ w, Spells w cs := by
  induction cs with
  | nil => exact ⟨[], nil⟩
  | cons c cs ih =>
    obtain ⟨b, hb⟩ := exists_token c
    obtain ⟨w, hw⟩ := ih
    exact ⟨b :: w, hb.append hw⟩

/-- The symbol of a character derives the tokens of the character. -/
theorem derives {c : Char} (h : Spells w [c]) : grammar.Derives (literal c) w := by
  obtain ⟨b, rfl⟩ : ∃ b, w = [b] := by
    have hlength := congrArg List.length h
    rw [List.length_map, List.length_map, List.length_singleton] at hlength
    exact List.length_eq_one_iff.1 hlength
  have hvalue : b.token.value.asString? = some (String.singleton c) := List.singleton_inj.1 h
  exact ⟨.leaf b, .token (by simp [Terminal.accepts, hvalue]), Tree.leaves_leaf b⟩

end Spells

/-! ## Balanced words are derived -/

variable {w w' : List BoundToken} {cs : List Char}

theorem derives_nothing : grammar.Derives (.nonterminal "Ps") [] :=
  Grammar.derives_of_rule (r := nothing) (mem_rules.2 (.inr (.inl rfl))) ⟨[], .nil, rfl⟩

theorem derives_another (h : grammar.Derives (.nonterminal "Ps") w) (h' : grammar.Derives (.nonterminal "P") w') :
    grammar.Derives (.nonterminal "Ps") (w ++ w') :=
  Grammar.derives_of_rule (r := another) (mem_rules.2 (.inr (.inr rfl)))
    ((Grammar.derivesAll_singleton h).append (Grammar.derivesAll_singleton h'))

theorem derives_pair {o c : Char} {u u' : List BoundToken} (hkind : (o, c) ∈ kinds) (ho : Spells u [o])
    (h : grammar.Derives (.nonterminal "Ps") w) (hc : Spells u' [c]) :
    grammar.Derives (.nonterminal "P") (u ++ (w ++ u')) :=
  Grammar.derives_of_rule (r := pair o c) (mem_rules.2 (.inl ⟨o, c, hkind, rfl⟩))
    ((Grammar.derivesAll_singleton ho.derives).append
      ((Grammar.derivesAll_singleton h).append (Grammar.derivesAll_singleton hc.derives)))

theorem derives_words {words : List (List Char)}
    (hwords : ∀ word ∈ words, ∀ w, Spells w word → grammar.Derives (.nonterminal "P") w)
    (h : Spells w words.flatten) : grammar.Derives (.nonterminal "Ps") w := by
  -- the rule is left recursive, so the last word comes off first
  induction words using List.reverseRecOn generalizing w with
  | nil =>
    obtain rfl : w = [] := List.map_eq_nil_iff.1 h
    exact derives_nothing
  | append_singleton words word ih =>
    rw [List.flatten_append, List.flatten_singleton] at h
    obtain ⟨u, u', rfl, hu, hu'⟩ := h.exists_of_append
    exact derives_another (ih (fun v hv => hwords v (List.mem_append_left _ hv)) hu)
      (hwords word (by simp) u' hu')

theorem Balanced.derives (h : Balanced cs) (hw : Spells w cs) : grammar.Derives (.nonterminal "P") w := by
  induction h generalizing w with
  | @enclose o c words hkind hwords ih =>
    rw [← List.singleton_append] at hw
    obtain ⟨u, w, rfl, ho, hw⟩ := hw.exists_of_append
    obtain ⟨w, u', rfl, hw, hc⟩ := hw.exists_of_append
    exact derives_pair hkind ho (derives_words (fun word hword w hw => ih word hword hw) hw) hc

/-! ## Nothing else is -/

/-- The tokens are those of a balanced word. -/
def SpellsWord (w : List BoundToken) : Prop := ∃ cs, Balanced cs ∧ Spells w cs

/-- The tokens are those of balanced words, one behind the other. -/
def SpellsWords (w : List BoundToken) : Prop :=
  ∃ words : List (List Char), (∀ word ∈ words, Balanced word) ∧ Spells w words.flatten

/-- What the symbols of the grammar stand for. -/
structure Reads (s : Symbol) (w : List BoundToken) : Prop where
  literal : ∀ c, s = literal c → Spells w [c]
  word : s = .nonterminal "P" → SpellsWord w
  words : s = .nonterminal "Ps" → SpellsWords w

theorem reads_token {t : Terminal} {b : BoundToken} (h : t.accepts b.token.value b.token = true) :
    Reads (.terminal t) [b] where
  literal c heq := by
    cases heq
    have hvalue : b.token.value.asString? = some (String.singleton c) := by simpa [Terminal.accepts] using h
    exact List.singleton_inj.2 hvalue
  word heq := by cases heq
  words heq := by cases heq

theorem reads_word (h : SpellsWord w) : Reads (.nonterminal "P") w where
  literal c heq := by cases heq
  word _ := h
  words heq := by simp at heq

theorem reads_words (h : SpellsWords w) : Reads (.nonterminal "Ps") w where
  literal c heq := by cases heq
  word heq := by simp at heq
  words _ := h

variable {vs : List Value}

theorem spellsWord_pair {o c : Char} (hkind : (o, c) ∈ kinds)
    (h : Joined (fun s w _ => Reads s w) (pair o c).symbols w vs) : SpellsWord w := by
  obtain _ | ⟨ho, _ | ⟨hwords, _ | ⟨hc, _ | _⟩⟩⟩ := h
  obtain ⟨words, hbalanced, hspells⟩ := hwords.words rfl
  have hw := (ho.literal o rfl).append (hspells.append ((hc.literal c rfl).append .nil))
  exact ⟨_, .enclose hkind hbalanced, hw⟩

theorem spellsWords_nothing (h : Joined (fun s w _ => Reads s w) nothing.symbols w vs) : SpellsWords w := by
  obtain _ | _ := h
  exact ⟨[], by simp, .nil⟩

theorem spellsWords_another (h : Joined (fun s w _ => Reads s w) another.symbols w vs) : SpellsWords w := by
  obtain _ | ⟨hwords, _ | ⟨hword, _ | _⟩⟩ := h
  obtain ⟨words, hbalanced, hspells⟩ := hwords.words rfl
  obtain ⟨cs, hcs, hlast⟩ := hword.word rfl
  refine ⟨words ++ [cs], ?_, ?_⟩
  · intro word hmem
    rcases List.mem_append.1 hmem with hmem | hmem
    · exact hbalanced word hmem
    · rwa [List.mem_singleton.1 hmem]
  · rw [List.flatten_append, List.flatten_singleton, List.append_nil]
    exact hspells.append hlast

theorem interprets : grammar.Interprets fun s w _ => Reads s w where
  token := reads_token
  rule hr h := by
    rcases mem_rules.1 hr with ⟨o, c, hkind, rfl⟩ | rfl | rfl
    · exact reads_word (spellsWord_pair hkind h)
    · exact reads_words (spellsWords_nothing h)
    · exact reads_words (spellsWords_another h)

theorem derives_word_iff : grammar.Derives (.nonterminal "P") w ↔ SpellsWord w := by
  constructor
  · rintro ⟨t, ht, rfl⟩
    exact (ht.interpreted interprets).word rfl
  · rintro ⟨cs, hcs, hw⟩
    exact hcs.derives hw

theorem not_spellsWord_nil : ¬ SpellsWord [] := by
  rintro ⟨cs, hcs, hspells⟩
  exact hcs.ne_nil (List.map_eq_nil_iff.1 hspells.symm)

theorem not_derivesAll_pair_nil {o c : Char} (hkind : (o, c) ∈ kinds) : ¬ grammar.DerivesAll (pair o c).symbols [] := by
  rintro ⟨ts, hts, hleaves⟩
  have hjoined := hts.joined interprets
  rw [hleaves] at hjoined
  exact not_spellsWord_nil (spellsWord_pair hkind hjoined)

theorem not_derivesAll_another_nil : ¬ grammar.DerivesAll another.symbols [] := by
  rintro ⟨ts, hts, hleaves⟩
  obtain _ | ⟨-, _ | ⟨hword, _ | _⟩⟩ := hts
  simp only [Tree.leavesAll_cons, Tree.leavesAll_nil, List.append_nil, List.append_eq_nil_iff] at hleaves
  have hspells := (hword.interpreted interprets).word rfl
  rw [hleaves.2] at hspells
  exact not_spellsWord_nil hspells

/-! ## Outcomes -/

theorem servesEmptyRules : grammar.ServesEmptyRules where
  nothing r hr h := by
    rcases mem_rules.1 hr with ⟨o, c, hkind, rfl⟩ | rfl | rfl
    · exact absurd h (not_derivesAll_pair_nil hkind)
    · rfl
    · exact absurd h not_derivesAll_another_nil
  expected e he hempty r hr d hd := by
    obtain rfl : e = nothing := by
      rcases mem_rules.1 he with ⟨o, c, -, rfl⟩ | rfl | rfl
      · exact absurd hempty (List.cons_ne_nil _ _)
      · rfl
      · exact absurd hempty (List.cons_ne_nil _ _)
    rcases mem_rules.1 hr with ⟨o, c, -, rfl⟩ | rfl | rfl
    · obtain _ | _ | _ | d := d
      · cases hd
      · exact .inr ⟨0, _, rfl, rfl⟩
      · cases hd
      · cases hd
    · cases hd
    · obtain _ | _ | d := d
      · exact .inl ⟨rfl, rfl⟩
      · simp [another, nothing] at hd
      · cases hd

theorem productive : grammar.Productive := by
  have hliteral (c : Char) : ∃ w, grammar.Derives (literal c) w := by
    obtain ⟨b, hb⟩ := Spells.exists_token c
    exact ⟨_, hb.derives⟩
  have hpair : ∃ w, grammar.Derives (.nonterminal "P") w := by
    obtain ⟨w, hw⟩ := Spells.exists_tokens ['(', ')']
    exact ⟨w, (balanced_pair (by decide)).derives hw⟩
  intro r hr s hs
  rcases mem_rules.1 hr with ⟨o, c, -, rfl⟩ | rfl | rfl
  · simp only [pair, List.mem_cons, List.not_mem_nil, or_false] at hs
    rcases hs with rfl | rfl | rfl
    · exact hliteral o
    · exact ⟨[], derives_nothing⟩
    · exact hliteral c
  · cases hs
  · rcases List.mem_pair.1 hs with rfl | rfl
    · exact ⟨[], derives_nothing⟩
    · exact hpair

/-- The alternatives of the root are the rules of the kinds of brackets, in their order. -/
theorem exists_kind_of_mem_rootRules {id : RuleId} (h : id ∈ grammar.rootRules) :
    ∃ o c, kinds[id]? = some (o, c) ∧ grammar.symbols id = (pair o c).symbols := by
  have hroot : grammar.rootRules = [0, 1, 2, 3] := by decide
  rw [hroot] at h
  simp only [List.mem_cons, List.not_mem_nil, or_false] at h
  rcases h with rfl | rfl | rfl | rfl <;> exact ⟨_, _, rfl, rfl⟩

/-- The first bracket tells the alternative. -/
theorem exists_kind_of_derivesBy {id : RuleId} (hw : Spells w cs) (h : grammar.DerivesBy w id) :
    ∃ o c, kinds[id]? = some (o, c) ∧ cs.head? = some o := by
  obtain ⟨hid, ts, hts, rfl⟩ := h
  obtain ⟨o, c, hkind, hsymbols⟩ := exists_kind_of_mem_rootRules hid
  rw [hsymbols] at hts
  obtain _ | ⟨ho, hrest⟩ := hts
  rw [Tree.leavesAll_cons] at hw
  obtain ⟨u, u', rfl, hu, -⟩ := hw.exists_append
  obtain rfl := hu.inj ((ho.interpreted interprets).literal o rfl)
  exact ⟨o, c, hkind, rfl⟩

theorem eq_of_derivesBy {id id' : RuleId} (hw : Spells w cs) (h : grammar.DerivesBy w id)
    (h' : grammar.DerivesBy w id') : id = id' := by
  obtain ⟨o, c, hkind, hhead⟩ := exists_kind_of_derivesBy hw h
  obtain ⟨o', c', hkind', hhead'⟩ := exists_kind_of_derivesBy hw h'
  have hopening : (kinds.map Prod.fst)[id]? = (kinds.map Prod.fst)[id']? := by
    rw [List.getElem?_map, List.getElem?_map, hkind, hkind', Option.map_some, Option.map_some, ← hhead, ← hhead']
  have hlt : id < (kinds.map Prod.fst).length := by
    rw [List.length_map]
    exact (List.getElem?_eq_some_iff.1 hkind).1
  exact (List.getElem?_inj hlt (by decide)).1 hopening

/-- A continuation of the tokens is derived just if one of their characters is balanced. -/
theorem exists_derives_append_iff (hw : Spells w cs) :
    (∃ u, grammar.Derives (.nonterminal "P") (w ++ u)) ↔ ∃ us, Balanced (cs ++ us) := by
  constructor
  · rintro ⟨u, hu⟩
    obtain ⟨cs', hcs', hspells⟩ := derives_word_iff.1 hu
    obtain ⟨vs, us, rfl, hvs, -⟩ := hspells.exists_append
    obtain rfl := hw.inj hvs
    exact ⟨us, hcs'⟩
  · rintro ⟨us, hus⟩
    obtain ⟨u, hu⟩ := Spells.exists_tokens us
    exact ⟨u, hus.derives (hw.append hu)⟩

theorem derives_iff (hw : Spells w cs) : grammar.Derives (.nonterminal "P") w ↔ Balanced cs := by
  rw [derives_word_iff]
  constructor
  · rintro ⟨cs', hcs', hspells⟩
    rwa [hw.inj hspells]
  · exact fun h => ⟨cs, h, hw⟩

/-- A word is a proper beginning of a balanced one just if it is a beginning of one and not balanced itself. -/
theorem exists_ne_nil_iff :
    (∃ us, us ≠ [] ∧ Balanced (cs ++ us)) ↔ (∃ us, Balanced (cs ++ us)) ∧ ¬ Balanced cs := by
  constructor
  · rintro ⟨us, hne, hus⟩
    refine ⟨⟨us, hus⟩, fun hcs => hne ?_⟩
    have hwhole : cs ++ us = cs ++ us ++ [] := (List.append_nil _).symm
    have heq : cs = cs ++ us := hcs.eq_of_append_eq_append hus hwhole
    simpa using heq
  · rintro ⟨⟨us, hus⟩, hcs⟩
    refine ⟨us, ?_, hus⟩
    rintro rfl
    rw [List.append_nil] at hus
    exact hcs hus

/-- A parse runs over tokens for the characters of the text. -/
theorem exists_outcome_parse_eq (l : CharLexer) (text : String) :
    ∃ w, Spells w text.toList ∧ ((⟨grammar, l⟩ : Parser CharLexer).parse text).1.outcome = (grammar.run w).2 := by
  obtain ⟨l', hemits⟩ := CharLexer.emits_reset l text
  refine ⟨_, ?_, Parser.outcome_parse (p := ⟨grammar, l⟩) hemits⟩
  have hvalue : (fun b : BoundToken => b.token.value.asString?) ∘ (fun t => ⟨t, Lexer.bind l' t⟩) =
      Value.asString? ∘ Token.value := rfl
  rw [Spells, List.map_map, hvalue, ← List.map_map, CharLexer.tokens, StreamLexer.values_tokens, List.map_map]
  rfl

theorem exists_run_eq_success_iff (hw : Spells w cs) : (∃ v, (grammar.run w).2 = .success v []) ↔ Balanced cs := by
  rw [← derives_iff hw]
  constructor
  · rintro ⟨v, hv⟩
    exact servesEmptyRules.exists_mem_successStates_iff.1 (Grammar.exists_run_eq_success_iff.1 ⟨v, [], hv⟩)
  · intro h
    obtain ⟨t, -, -, hrun⟩ :=
      (servesEmptyRules.fixedPoints w).exists_run_eq_success_nil h fun _ _ => eq_of_derivesBy hw
    exact ⟨t.value grammar, hrun⟩

theorem exists_run_eq_incomplete_iff (hw : Spells w cs) :
    (∃ predictions, (grammar.run w).2 = .incomplete predictions) ↔ ∃ us, us ≠ [] ∧ Balanced (cs ++ us) := by
  rw [exists_ne_nil_iff, ← derives_iff hw, ← exists_derives_append_iff hw]
  exact servesEmptyRules.exists_run_eq_incomplete_iff productive

theorem run_eq_invalid_iff (hw : Spells w cs) :
    (grammar.run w).2 = .invalid ↔ ¬ ∃ us, Balanced (cs ++ us) := by
  rw [← exists_derives_append_iff hw]
  exact servesEmptyRules.run_eq_invalid_iff productive

/-- With the characters of a text for its tokens the outcome is a success, and an unambiguous one, just if the text is
balanced. It is incomplete just if the text is a proper beginning of a balanced one, and invalid just if it is no
beginning of any. -/
theorem parse_classifies (l : CharLexer) (text : String) :
    Grammar.ofRules rules = .ok grammar ∧
    ((∃ v, ((⟨grammar, l⟩ : Parser CharLexer).parse text).1.outcome = .success v [] ∧
      ((⟨grammar, l⟩ : Parser CharLexer).parse text).1.outcome.isAmbiguous = false) ↔ Balanced text.toList) ∧
    ((∃ predictions, ((⟨grammar, l⟩ : Parser CharLexer).parse text).1.outcome = .incomplete predictions) ↔
      ∃ us, us ≠ [] ∧ Balanced (text.toList ++ us)) ∧
    (((⟨grammar, l⟩ : Parser CharLexer).parse text).1.outcome = .invalid ↔ ¬ ∃ us, Balanced (text.toList ++ us)) := by
  obtain ⟨w, hw, hparse⟩ := exists_outcome_parse_eq l text
  rw [hparse]
  refine ⟨ofRules_rules, ?_, exists_run_eq_incomplete_iff hw, run_eq_invalid_iff hw⟩
  rw [← exists_run_eq_success_iff hw]
  constructor
  · rintro ⟨v, hv, -⟩
    exact ⟨v, hv⟩
  · rintro ⟨v, hv⟩
    exact ⟨v, hv, by rw [hv]; rfl⟩

end Brackets

end ChartParsing
