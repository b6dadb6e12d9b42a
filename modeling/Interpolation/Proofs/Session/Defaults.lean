import Interpolation.Proofs.Session.SelfReference
import Interpolation.Session

/-!
# Defaults that are stored

A reference with `:=` stores its default for an unset property. The default is the value at once, and
from then on the property has the value that the stored text stands for: the same text, unless a
dollar sign is doubled in it.

* `Call.Yields`: what calls one after another in a session answer and leave;
* `Resolver.spec_value_default` and `Resolver.spec_value_stored`: the value of the reference before
  and after the default is stored;
* `Store.expand_default`: the reference twice, and then the property.
-/

namespace Interpolation

/-! ## Calls one after another -/

namespace Call

variable {r : Resolver} {host : Host} {g : Guard} {k k' k'' : Stock} {c : Call} {cs : List Call}
variable {answer : Except Error Answer} {answers : List (Except Error Answer)}

/-- With a guard and a stock, calls have these answers and leave this stock, and the guard as it
is. -/
def Yields (r : Resolver) (host : Host) (g : Guard) (k : Stock) (cs : List Call)
    (answers : List (Except Error Answer)) (k' : Stock) : Prop :=
  ∀ s : State, s.guard = g → s.stock = k →
    ∃ t, runAll r host cs s = some (answers, t) ∧ t.guard = g ∧ t.stock = k'

namespace Yields

theorem nil : Yields r host g k [] [] k :=
  fun s hg hk => ⟨s, rfl, hg, hk⟩

theorem cons (h : Eval.Spec False g k (c.run r host) fun a l => a = answer ∧ l = k')
    (h' : Yields r host g k' cs answers k'') :
    Yields r host g k (c :: cs) (answer :: answers) k'' := by
  intro s hg hk
  obtain ⟨-, h⟩ | ⟨_, t, hrun, ht, rfl, hk'⟩ := h s hg hk
  · exact h.elim
  · obtain ⟨u, hrest, hu⟩ := h' t ht hk'
    exact ⟨u, by simp only [runAll, hrun, hrest, Option.bind_eq_bind, Option.bind_some], hu⟩

/-- A text that is expanded first. -/
theorem expand {t out : Text} (h : Eval.Spec False g k (Reference.expand host t)
      fun a l => a = .ok out ∧ l = k') (h' : Yields r host g k' cs answers k'') :
    Yields r host g k (.expand t :: cs) (.ok (.text out) :: answers) k'' := by
  refine .cons ?_ h'
  rw [run, map_eq_pure_bind]
  refine h.bind ?_ fun _ _ h => by cases h.1
  rintro _ _ ⟨⟨⟩, rfl⟩
  exact .pure ⟨rfl, rfl⟩

end Yields

end Call

/-! ## Defaults -/

namespace Resolver

open Text

section Default

variable {r : Resolver} {k : Stock} {n d : Text} {first depth : Nat}
variable (hr : r.chain = .standard first) (hn : n.isPlainName) (hline : '\n' ∉ d) (hslice : ¬d.EndsInSlice)
  (hname : k.properties.get? (n ++ ':' :: '=' :: d) = none)
  (href : Strategy.Unregistered k.references (n ++ ':' :: '=' :: d))

include hr hn hline hslice hname href

/-- The reference is left to the operator that stores its default. -/
theorem spec_value_of_orElse {post : Except Error (Option Value) → Stock → Prop}
    (h : Eval.Spec False (inHand first .empty (n ++ ':' :: '=' :: d)) k
      (Operator.orElse (r.host depth) n (Operator.fallback (r.host depth) n d '=')) post)
    (hnone : ∀ k', ¬post (.ok none) k') :
    Eval.Spec False .empty k (r.propertyValue (r.host depth) (n ++ ':' :: '=' :: d)) post := by
  have hmisread : ¬Misread '=' d := fun h => hslice (h.resolve_right fun h => absurd h.1 (by decide))
  exact spec_propertyValue_of_unset hname
    (spec_resolve_orElse hr hn (by decide) hline hmisread href (.empty _) h hnone)

/-- The reference to an unset property has the default for its value, and stores it. -/
theorem spec_value_default (hunset : k.properties.get? n = none) :
    Eval.Spec False .empty k (r.propertyValue (r.host (depth + 2)) (n ++ ':' :: '=' :: d))
      fun answer k' => answer = .ok (some (.text d)) ∧
        k' = { k with properties := k.properties.insert n d } := by
  refine spec_value_of_orElse hr hn hline hslice hname href ?_ fun _ h => by cases h.1
  refine (spec_operandLookup_unset hr hn (over_inHand (.empty _) (by simp)) hunset nofun).bind ?_
    fun _ _ h => by cases h.1
  rintro _ _ ⟨⟨⟩, rfl⟩
  refine (spec_fallback (c := '=') (by decide) hunset r).mono fun answer k' h => ?_
  simpa only [Operator.verbatim, hunset] using h

/-- The reference to a stored property has the value that the stored text stands for. -/
theorem spec_value_stored {v : Text} (hv : k.properties.get? n = some v) (hopen : v.Unopened) :
    Eval.Spec False .empty k (r.propertyValue (r.host (depth + 2)) (n ++ ':' :: '=' :: d))
      fun answer k' => answer = .ok (some (.text v.undouble)) ∧ k' = k := by
  refine spec_value_of_orElse hr hn hline hslice hname href ?_ fun _ h => by cases h.1
  refine (spec_operandLookup_set (over_inHand (.empty _) (by simp)) hv hopen).bind ?_
    fun _ _ h => by cases h.1
  rintro _ _ ⟨⟨⟩, rfl⟩
  exact .pure ⟨rfl, rfl⟩

end Default

end Resolver

namespace Store

open Text

/-- The calls that a default is looked at with: the reference twice, and then the property. -/
def defaultCalls (n d : Text) : List Call :=
  [.expand (reference (n ++ ':' :: '=' :: d)), .expand (reference (n ++ ':' :: '=' :: d)),
    .expand (reference n)]

/-- In one session, a reference with a default for a plain name that is not stored expands to the
default, and from then on both the reference and the property expand to what the stored default stands
for, which is the same text just when no dollar sign is doubled in it. The property is all that
changes. The text of the reference must not be the name of a property or of a value that has been
registered. -/
theorem expand_default (s : Store) {first : Nat} (hs : s.resolver.chain = .standard first) {n d : Text}
    (hn : n.isPlainName) (hunset : s.property? n = none) (hline : '\n' ∉ d) (hclose : '}' ∉ d) (hopen : d.Unopened)
    (hslice : ¬d.EndsInSlice) (hname : s.property? (n ++ ':' :: '=' :: d) = none)
    (href : n = "ref".toList → s.reference? ('=' :: d) = none) {depth : Nat} (hdepth : 4 ≤ depth) :
    (∃ u, Call.runAll s.resolver (s.resolver.host depth) (defaultCalls n d) (s.state .empty) =
        some ([.ok (.text d), .ok (.text d.undouble), .ok (.text d.undouble)], u) ∧
      s.after u = s.setProperty n d) ∧
    (d.undouble = d ↔ ¬['$', '$'] <:+: d) := by
  refine ⟨?_, undouble_eq_self_iff⟩
  obtain ⟨depth, rfl⟩ := Nat.exists_eq_add_of_le' hdepth
  have hreference : Strategy.Unregistered s.references (n ++ ':' :: '=' :: d) :=
    Strategy.unregistered_of_plainName hn href
  have htoken : (n ++ ':' :: '=' :: d).Unopened := by
    have hfront : '$' ∉ n ++ [':', '='] := fun hm => (List.mem_append.1 hm).elim
      (not_mem_of_isPlainName hn (by decide)) (by decide)
    have hsplit : n ++ ':' :: '=' :: d = (n ++ [':', '=']) ++ d := by simp
    rw [hsplit]
    exact hopen.append hfront
  have hclosed : '}' ∉ n ++ ':' :: '=' :: d := fun hm => (List.mem_append.1 hm).elim
    (not_mem_of_isPlainName hn (by decide)) (by simpa using hclose)
  let stored : Stock := { s.stock with properties := s.properties.insert n d }
  have hstored : stored.properties.get? n = some d := TextMap.get?_insert_self ..
  have hname' : stored.properties.get? (n ++ ':' :: '=' :: d) = none :=
    (TextMap.get?_insert_of_ne s.properties d (by simp)).trans hname
  have yields : Call.Yields s.resolver (s.resolver.host (depth + 4)) .empty s.stock
      (defaultCalls n d) [.ok (.text d), .ok (.text d.undouble), .ok (.text d.undouble)] stored := by
    refine .expand (Resolver.spec_expandAt_reference htoken hclosed
      (Resolver.spec_value_default (k := s.stock) hs hn hline hslice hname hreference hunset)) ?_
    refine .expand (Resolver.spec_expandAt_reference htoken hclosed
      (Resolver.spec_value_stored (k := stored) hs hn hline hslice hname' hreference hstored hopen)) ?_
    have hplain : n.Unopened := unopened_of_not_mem (not_mem_of_isPlainName hn (by decide))
    exact .expand (Resolver.spec_expandAt_reference hplain (not_mem_of_isPlainName hn (by decide))
      (Resolver.spec_propertyValue_of_unopened hstored rfl hopen)) .nil
  obtain ⟨u, hrun, -, hu⟩ := yields (s.state .empty) rfl rfl
  exact ⟨u, hrun, after_eq hu⟩

/-- The prefix of references as the name of a property, and a default with a doubled dollar sign and
something like a time in it. -/
theorem expand_default_ref :
    let s := standard (.ofList [("ref:=10:30h".toList, "x".toList)])
    let d : Text := "10:30h$$".toList
    ¬d.EndsInSlice ∧ ∃ u, Call.runAll s.resolver (s.resolver.host usualDepth)
        (defaultCalls "ref".toList d) (s.state .empty) =
          some ([.ok (.text d), .ok (.text "10:30h$".toList), .ok (.text "10:30h$".toList)], u) ∧
      s.after u = s.setProperty "ref".toList d := by
  intro s d
  have hslice : ¬d.EndsInSlice := by
    intro h
    have := Operator.isSome_recognize?_slice (x := "ref".toList) (c := '=') (by decide) (by decide)
      (by decide) h
    exact absurd this (by decide +kernel)
  have hdepth : 4 ≤ usualDepth := by simp [usualDepth]
  have hundouble : d.undouble = "10:30h$".toList := by decide
  obtain ⟨⟨u, hrun, hafter⟩, -⟩ := expand_default s rfl (n := "ref".toList) (d := d) (by decide) rfl
    (by decide) (by decide) (by decide +kernel) hslice rfl (fun _ => rfl) hdepth
  rw [hundouble] at hrun
  exact ⟨hslice, u, hrun, hafter⟩

/-- A doubled dollar sign is halved once the default is stored; a property with the name of the whole
text, or a value registered under what is behind `ref:`, is found instead of the default. -/
theorem expand_default_departs :
    let answers (s : Store) (n d : Text) :=
      (Call.runAll s.resolver (s.resolver.host usualDepth) (defaultCalls n d) (s.state .empty)).map (·.1)
    let named := standard (.ofList [("n:=d".toList, "x".toList)])
    let registered := (standard ∅).addReference "=d".toList (.text "x".toList)
    isPlainName "n".toList ∧ isPlainName "ref".toList ∧
      answers (standard ∅) "n".toList "a$$b".toList = some
        [.ok (.text "a$$b".toList), .ok (.text "a$b".toList), .ok (.text "a$b".toList)] ∧
      answers named "n".toList "d".toList = some
        [.ok (.text "x".toList), .ok (.text "x".toList), .ok (.text "${n}".toList)] ∧
      answers registered "ref".toList "d".toList = some
        [.ok (.text "x".toList), .ok (.text "x".toList), .ok (.text "${ref}".toList)] ∧
      ∀ t, answers (standard ∅) "n".toList "a$$b".toList ≠
        some [.ok (.text t), .ok (.text t), .ok (.text t)] := by
  intro answers named registered
  have doubled : answers (standard ∅) "n".toList "a$$b".toList = some
      [.ok (.text "a$$b".toList), .ok (.text "a$b".toList), .ok (.text "a$b".toList)] := by
    decide +kernel
  refine ⟨by decide, by decide, doubled, by decide +kernel, by decide +kernel, fun t ht => ?_⟩
  rw [doubled] at ht
  simp only [Option.some.injEq, List.cons.injEq, Except.ok.injEq, Answer.text.injEq, and_true] at ht
  exact absurd (ht.1.trans ht.2.1.symm) (by decide)

end Store

end Interpolation
