import Interpolation.Proofs.Session.Doubling
import Mathlib.Data.List.Chain
import Mathlib.Data.List.Infix

/-!
# Operators on unset names

Where a chain has nothing but the operators, and no name that a token begins with is stored, the token
comes to nothing. An operator that recognises it asks for the name in front first, before it looks at
indices, globs or patterns. The name goes through the chain in the same way, and is shorter.

* `Text.NoFallback` texts have none of the operators that answer for an unset property;
* `Operator.spec_evaluate_of_unset`: the other operators pass if the name in front is unset;
* `Strategy.spec_resolveOnce_of_declines`: a chain passes if its strategies do, and also if it is
  resolving the token already;
* `Resolver.spec_resolve_of_unset`: so tokens come to nothing, by induction on their length;
* `Store.resolve_unset` says so of stores.
-/

namespace Interpolation

namespace Text

variable {t p : Text}

/-- None of the operators that answer for an unset property stands in a text. -/
def NoFallback (t : Text) : Prop := ∀ c ∈ ['-', '=', '?'], ¬[':', c] <:+: t

theorem NoFallback.of_prefix (h : t.NoFallback) (hp : p <+: t) : p.NoFallback :=
  fun c hc hi => h c hc (hi.trans hp.isInfix)

end Text

namespace Operator

variable {op : Operator} {token : Text} {host : Host} {unended : Prop} {g : Guard} {k : Stock}

/-- An operator passes a token if the name in front of it is unset, unless it is one that answers then. -/
theorem spec_evaluate_of_unset (hfall : token.NoFallback)
    (h : ∀ name r, token = name ++ op.sign :: r →
      Eval.Spec unended g k (Operand.lookup host.toProperties name)
        fun found k' => found = .ok .unset ∧ k' = k) :
    Eval.Spec unended g k (op.evaluate host token) fun answer k' => answer = .ok none ∧ k' = k := by
  have unmatched (c : Char) (hc : c ∈ ['-', '=', '?']) : recognize? (textGrammar c) token = none := by
    cases hg : recognize? (textGrammar c) token with
    | none => rfl
    | some groups =>
      obtain ⟨u, v, rfl, -⟩ := exists_groups_of_recognize?_textGrammar hg
      exact absurd ⟨u, v, by simp⟩ (hfall c hc)
  rw [evaluate]
  cases hg : recognize? op.grammar token with
  | none => exact .pure ⟨rfl, rfl⟩
  | some groups =>
    obtain ⟨r, hr⟩ := exists_name_of_recognize? hg
    have lookup := (h (groups.text 1) r hr).mono fun found k' hfound =>
      (⟨by rw [hfound.1]; rfl, hfound.2⟩ : found.map Operand.value? = .ok none ∧ k' = k)
    cases op with
    | substring | transliterate | delete | replace => exact spec_onValue_of_none lookup
    | defaultValue => exact absurd (hg.symm.trans (unmatched '-' (by decide))) (Option.some_ne_none _)
    | setDefault => exact absurd (hg.symm.trans (unmatched '=' (by decide))) (Option.some_ne_none _)
    | require => exact absurd (hg.symm.trans (unmatched '?' (by decide))) (Option.some_ne_none _)

end Operator

/-- A chain passes a token that its strategies pass. One that it is resolving already it passes anyhow. -/
theorem Strategy.spec_resolveOnce_of_declines {unended : Prop} {g : Guard} {k : Stock} {scope : Scope}
    {balance : Balance} {token : Text} {e : Eval (Option Value)}
    (h : Eval.Spec unended (g.push ⟨scope, token⟩) k e fun answer k' => answer = .ok none ∧ k' = k) :
    Eval.Spec unended g k (resolveOnce scope balance token e)
      fun answer k' => answer = .ok none ∧ k' = k := by
  cases hg : g.contains ⟨scope, token⟩ with
  | false => exact spec_resolveOnce hg h
  | true =>
    refine Eval.Spec.congr (.pure ⟨rfl, rfl⟩) fun s hs _ => ?_
    subst hs
    exact run_resolveOnce_of_contains hg

/-- Where the chain has only the operators, a token comes to nothing if it has no operator that answers
for an unset property and no name that it begins with is stored. -/
theorem Resolver.spec_resolve_of_unset {r : Resolver} {inner : Scope} {g : Guard} {k : Stock}
    {token : Text} {depth : Nat} (hr : r.chain.delegates = [.operators inner])
    (hunset : ∀ p, p <+: token → k.properties.get? p = none) (hfall : token.NoFallback)
    (hdepth : token.length ≤ depth) :
    Eval.Spec False g k (r.resolve (r.host depth) token)
      fun answer k' => answer = .ok none ∧ k' = k := by
  induction hn : token.length using Nat.strongRecOn generalizing token depth g with
  | ind n ih =>
    subst hn
    -- the name that an operator asks for is a shorter token of the same kind
    have lookup (op : Operator) (g' : Guard) (name rest : Text) (htoken : token = name ++ op.sign :: rest) :
        Eval.Spec False g' k (Operand.lookup (r.host depth).toProperties name)
          (fun found k' => found = .ok .unset ∧ k' = k) := by
      have hprefix : name <+: token := ⟨_, htoken.symm⟩
      have hlength : name.length < token.length := by
        rw [htoken]
        simp
      refine spec_operandLookup_unresolved (hunset name hprefix) (show none.bind Value.text? = none from rfl)
        (fun h => by omega) fun n hd => ?_
      exact ih name.length hlength (fun p hp => hunset p (hp.trans hprefix)) (hfall.of_prefix hprefix)
        (by omega) rfl
    rw [resolve, Chain.evaluate_eq, hr, Strategy.firstAnswer_singleton, Strategy.operators,
      Strategy.evaluate]
    refine Strategy.spec_resolveOnce_of_declines (Strategy.spec_resolveOnce_of_declines ?_)
    refine Strategy.spec_firstAnswer_of_declines fun d hd => ?_
    obtain ⟨op, -, rfl⟩ := List.mem_map.1 hd
    rw [Strategy.evaluate]
    exact Operator.spec_evaluate_of_unset hfall (lookup op _)

/-- In a store whose chain has only the operators, a token without `:-`, `:=` and `:?` comes to nothing if
no name that it begins with is stored, whatever indices, globs and patterns are in it. It makes no
error and changes nothing, and a reference to it stands for its own text. An operator asks for a
shorter name, so that a depth of the length of the token is enough. -/
theorem Store.resolve_unset (s : Store) {inner : Scope}
    (hs : s.resolver.chain.delegates = [.operators inner]) {t : Text}
    (hunset : ∀ p, p <+: t → s.property? p = none) (hfall : t.NoFallback) :
    (∀ depth ≥ t.length, s.session (s.resolver.resolveAt depth t) = some (.ok none, s)) ∧
    (t.Unopened → '}' ∉ t → ∀ depth ≥ t.length + 2,
      s.session (s.resolver.expandAt depth (Text.reference t)) = some (.ok (Text.reference t), s)) := by
  refine ⟨fun depth hdepth => ?_, fun hopen hclose depth hdepth => ?_⟩
  · exact session_eq_some (Resolver.spec_resolve_of_unset (k := s.stock) hs hunset hfall hdepth)
  · obtain ⟨depth, rfl⟩ := Nat.exists_eq_add_of_le' (show 2 ≤ depth by omega)
    have value : Eval.Spec False .empty s.stock
        (s.resolver.propertyValue (s.resolver.host (depth + 1)) t)
        (fun answer k => answer = .ok none ∧ k = s.stock) :=
      Resolver.spec_propertyValue_of_unset (hunset t List.prefix_rfl)
        (Resolver.spec_resolve_of_unset hs hunset hfall (by omega))
    exact session_eq_some (Resolver.spec_expandAt_reference hopen hclose value)

/-- Three operators on one token, with a glob that is no pattern and an index that is out of range
everywhere, next to a stored name that the token only goes on like. -/
theorem Store.resolve_unset_stacked :
    let s := ofChain ⟨⟨1⟩, .lenient, [.operators ⟨2⟩]⟩ .standard .standard
      (.ofList [("abc".toList, "x".toList)])
    let t : Text := "ab##[%(/b/$:7:3".toList
    (∀ p, p <+: t → s.property? p = none) ∧ t.NoFallback ∧ t.Unopened ∧ '}' ∉ t ∧
      s.resolve t = some (.ok none, s) ∧
      s.expand "${ab##[%(/b/$:7:3}".toList = some (.ok "${ab##[%(/b/$:7:3}".toList, s) := by
  intro s t
  have hunset : ∀ p, p <+: t → s.property? p = none := fun p hp =>
    (by decide : ∀ p ∈ t.inits, s.property? p = none) p ((List.mem_inits p t).2 hp)
  have hchain : t.IsChain fun a b => ¬(a = ':' ∧ b ∈ ['-', '=', '?']) := by decide
  have hfall : t.NoFallback := by
    intro c hc h
    have hpair := List.IsChain.infix hchain h
    exact List.isChain_pair.1 hpair ⟨rfl, hc⟩
  have hbrace : '{' ∉ t := by decide
  have hopen : t.Unopened := fun h => hbrace (h.subset (by decide))
  have hclose : '}' ∉ t := by decide
  have hlength : t.length = 15 := rfl
  have hdepth : usualDepth = 1000000 := rfl
  have hreference : "${ab##[%(/b/$:7:3}".toList = Text.reference t := by decide
  have hchain : s.resolver.chain.delegates = [.operators ⟨2⟩] := rfl
  obtain ⟨hresolve, hexpand⟩ := resolve_unset s hchain hunset hfall
  rw [hreference, Store.resolve, Store.expand]
  exact ⟨hunset, hfall, hopen, hclose, hresolve usualDepth (by omega),
    hexpand hopen hclose usualDepth (by omega)⟩

end Interpolation
