import ChartParsing.Grammar.Basic

/-!
# The index of names

The index of a grammar lists under each name the numbers of the rules that have it, in their order.
-/

namespace ChartParsing

namespace NameIndex

@[simp] theorem find_nil (n : String) : find [] n = [] := rfl

theorem find_cons (m : String) (ids : List RuleId) (rest : NameIndex) (n : String) :
    find ((m, ids) :: rest) n = if n = m then ids else find rest n := by
  by_cases h : n = m
  · simp [find, h]
  · simp [find, List.lookup_cons, h, beq_eq_false_iff_ne.2 h]

theorem find_insert (index : NameIndex) (name : String) (id : RuleId) (n : String) :
    (index.insert name id).find n = if n = name then index.find n ++ [id] else index.find n := by
  induction index with
  | nil => simp [insert, find_cons]
  | cons entry rest ih =>
    obtain ⟨m, ids⟩ := entry
    rw [insert]
    by_cases hm : m = name
    · subst hm
      by_cases h : n = m <;> simp [find_cons, h]
    · by_cases h : n = m
      · subst h; simp [find_cons, hm]
      · simp [find_cons, hm, h, ih]

theorem find_addRules (first : RuleId) (rules : List Rule) (index : NameIndex) (n : String) :
    (addRules first rules index).find n =
      index.find n ++ ((rules.zipIdx first).filter (·.1.name == n)).map Prod.snd := by
  induction rules generalizing first index with
  | nil => simp [addRules]
  | cons r rs ih =>
    rw [addRules, ih, find_insert, List.zipIdx_cons, List.filter_cons]
    by_cases h : r.name = n
    · simp [h]
    · simp [h, Ne.symm h]

end NameIndex

namespace Grammar

/-- The grammar of one rule and others. -/
def rooted (root : String) (rule : Rule) (rules : List Rule) : Grammar where
  rules := (rule :: rules).toArray
  root := root
  index := NameIndex.ofRules (rule :: rules)
  nonempty := by simp
  index_eq := rfl

theorem withRoot_cons (root : String) (rule : Rule) (rules : List Rule) :
    withRoot (rule :: rules) root = .ok (rooted root rule rules) := rfl

variable {g : Grammar} {name : String} {id : RuleId}

theorem rulesNamed_eq (g : Grammar) (name : String) :
    g.rulesNamed name = (g.rules.toList.zipIdx.filter (·.1.name == name)).map Prod.snd := by
  rw [rulesNamed, g.index_eq, NameIndex.ofRules, NameIndex.find_addRules]
  rfl

theorem pairwise_rulesNamed (g : Grammar) (name : String) : (g.rulesNamed name).Pairwise (· < ·) := by
  have hnumbers : (g.rules.toList.zipIdx.map Prod.snd).Pairwise (· < ·) := by
    rw [List.zipIdx_map_snd]
    exact List.pairwise_lt_range'
  rw [rulesNamed_eq]
  exact hnumbers.sublist (List.filter_sublist.map Prod.snd)

theorem mem_rulesNamed : id ∈ g.rulesNamed name ↔ ∃ r, g.rules[id]? = some r ∧ r.name = name := by
  simp only [rulesNamed_eq, List.mem_map, List.mem_filter, beq_iff_eq]
  constructor
  · rintro ⟨⟨r, n⟩, ⟨hr, hname⟩, rfl⟩
    exact ⟨r, by simpa using List.mk_mem_zipIdx_iff_getElem?.1 hr, hname⟩
  · rintro ⟨r, hr, hname⟩
    exact ⟨(r, id), ⟨List.mk_mem_zipIdx_iff_getElem?.2 (by simpa using hr), hname⟩, rfl⟩

theorem symbols_eq {r : Rule} (h : g.rules[id]? = some r) : g.symbols id = r.symbols := by simp [symbols, h]

theorem name_eq {r : Rule} (h : g.rules[id]? = some r) : g.name id = r.name := by simp [Grammar.name, h]

theorem action_eq {r : Rule} (h : g.rules[id]? = some r) : g.action id = r.action := by simp [action, h]

theorem name_of_mem_rulesNamed (h : id ∈ g.rulesNamed name) : g.name id = name := by
  obtain ⟨r, hr, hname⟩ := mem_rulesNamed.1 h
  rw [name_eq hr, hname]

/-- A rule with a symbol at some place is a rule of the grammar. -/
theorem exists_rule_of_getElem? {d : Nat} {s : Symbol} (h : (g.symbols id)[d]? = some s) :
    ∃ r, g.rules[id]? = some r ∧ d < r.symbols.length := by
  cases hr : g.rules[id]? with
  | none => simp [symbols, hr] at h
  | some r =>
    rw [symbols_eq hr] at h
    exact ⟨r, rfl, (List.getElem?_eq_some_iff.1 h).1⟩

theorem isRootRule_iff : g.isRootRule id = true ↔ id ∈ g.rootRules := by
  rw [isRootRule, rootRules, mem_rulesNamed, Option.any_eq_true]
  simp

end Grammar

end ChartParsing
