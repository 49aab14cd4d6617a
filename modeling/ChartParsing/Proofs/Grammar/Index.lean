import ChartParsing.Proofs.Grammar.Names
import Mathlib.Data.List.Dedup
import Mathlib.Data.List.Nodup

/-!
# The index lists every rule once

The index of a grammar is made in one pass over the rules, whose names may come again and in any order. Under each name
it lists exactly the rules of that name, in declared order, and so each rule is listed under one name, once. To look a
rule up among those of the root is the same as to compare its name with that of the root.
-/

namespace ChartParsing.Grammar

variable {g : Grammar} {name other : String}

theorem nodup_rulesNamed (g : Grammar) (name : String) : (g.rulesNamed name).Nodup :=
  (pairwise_rulesNamed g name).imp Nat.ne_of_lt

theorem disjoint_rulesNamed (h : name ≠ other) : (g.rulesNamed name).Disjoint (g.rulesNamed other) := by
  intro id hname hother
  exact h ((name_of_mem_rulesNamed hname).symm.trans (name_of_mem_rulesNamed hother))

theorem rulesNamed_eq_nil_iff : g.rulesNamed name = [] ↔ ∀ r ∈ g.rules, r.name ≠ name := by
  simp only [List.eq_nil_iff_forall_not_mem, mem_rulesNamed, not_exists, not_and, Array.mem_iff_getElem?]
  exact ⟨fun h r ⟨id, hr⟩ => h id r hr, fun h id r hr => h r ⟨id, hr⟩⟩

/-- The lists of all names, each name taken once, are a partition of the rules. -/
theorem perm_rulesNamed (g : Grammar) :
    ((g.rules.toList.map Rule.name).dedup.flatMap g.rulesNamed).Perm (List.range g.size) := by
  refine (List.perm_ext_iff_of_nodup ?_ List.nodup_range).2 fun id => ?_
  · refine List.nodup_flatMap.2 ⟨fun name _ => nodup_rulesNamed g name, ?_⟩
    exact (List.nodup_dedup _).imp fun h => disjoint_rulesNamed h
  · rw [List.mem_flatMap, List.mem_range]
    constructor
    · rintro ⟨name, -, hid⟩
      obtain ⟨r, hr, -⟩ := mem_rulesNamed.1 hid
      exact (Array.getElem?_eq_some_iff.1 hr).1
    · intro hid
      refine ⟨g.rules[id].name, List.mem_dedup.2 (List.mem_map.2 ⟨g.rules[id], ?_, rfl⟩), ?_⟩
      · exact Array.getElem_mem_toList hid
      · exact mem_rulesNamed.2 ⟨g.rules[id], Array.getElem?_eq_getElem hid, rfl⟩

/-- In the grammar of some rules the index has under each name the numbers of its rules, in increasing order, and over
all names every number once; and a rule is listed for the root if and only if it has the root's name. -/
theorem withRoot_index {rules : List Rule} (root : String) (h : rules ≠ []) :
    ∃ g, withRoot rules root = .ok g ∧
      (∀ name, (g.rulesNamed name).Pairwise (· < ·) ∧
        (∀ id, id ∈ g.rulesNamed name ↔ ∃ r, rules[id]? = some r ∧ r.name = name) ∧
        (g.rulesNamed name = [] ↔ ∀ r ∈ rules, r.name ≠ name)) ∧
      ((rules.map Rule.name).dedup.flatMap g.rulesNamed).Perm (List.range rules.length) ∧
      ∀ id (hid : id < rules.length),
        (g.isRootRule id = true ↔ rules[id].name = root) ∧ (g.isRootRule id = true ↔ id ∈ g.rootRules) := by
  obtain ⟨rule, others, rfl⟩ := List.exists_cons_of_ne_nil h
  refine ⟨rooted root rule others, withRoot_cons root rule others, fun name => ⟨?_, fun id => ?_, ?_⟩, ?_, ?_⟩
  · exact pairwise_rulesNamed _ name
  · rw [mem_rulesNamed]
    simp [rooted]
  · rw [rulesNamed_eq_nil_iff]
    simp [rooted]
  · exact perm_rulesNamed (rooted root rule others)
  · intro id hid
    have hrule : (rooted root rule others).rules[id]? = some (rule :: others)[id] := by simp [rooted]
    refine ⟨?_, isRootRule_iff⟩
    rw [isRootRule_iff, rootRules, mem_rulesNamed, hrule]
    simp [rooted]

theorem withRoot_index_interleaved :
    ∃ g, withRoot [⟨"a", [], .list⟩, ⟨"b", [], .list⟩, ⟨"a", [], .first⟩] "b" = .ok g ∧
      (g.rulesNamed "a").Pairwise (· < ·) ∧ 2 ∈ g.rulesNamed "a" ∧ g.rulesNamed "c" = [] ∧
      g.isRootRule 1 = true ∧ 1 ∈ g.rootRules := by
  obtain ⟨g, hg, hnamed, -, hroot⟩ := @withRoot_index [⟨"a", [], .list⟩, ⟨"b", [], .list⟩, ⟨"a", [], .first⟩] "b"
    (List.cons_ne_nil _ _)
  have hone : g.isRootRule 1 = true := (hroot 1 (by decide)).1.2 rfl
  exact ⟨g, hg, (hnamed "a").1, ((hnamed "a").2.1 2).2 ⟨_, rfl, rfl⟩, (hnamed "c").2.2.2 (by simp), hone,
    (hroot 1 (by decide)).2.1 hone⟩

end ChartParsing.Grammar
