import Interpolation.Proofs.Reference.Scanning
import Mathlib.Data.Set.Finite.List
import Mathlib.Order.WellFounded

/-!
# Templates

A template is a text that refers to stored names in the plainest way. If all stored texts are
templates and no name leads back to itself, the references can be replaced once and for all.

* `Template` is a text in pieces, `Template.text` the text and `Template.fill` what becomes of it
  when the names have values;
* `Template.scans`: the pieces are the parts that are scanned, so that a text is one template at
  most (`Template.text_injective`);
* `RefersTo` relates a stored name to the names that its text refers to;
* `Solves` says that values agree with the stored texts, and `existsUnique_solves` that there are
  such values, and only one for each name.
-/

namespace Interpolation

/-! ## Stored names -/

/-- A name under which a text is stored. -/
abbrev TextMap.Key (ps : TextMap Text) := { name : Text // (ps.get? name).isSome }

variable {ps : TextMap Text}

namespace TextMap

/-- The text that is stored under a name. -/
def Key.raw (n : ps.Key) : Text := (ps.get? n.1).get n.2

theorem Key.get?_eq (n : ps.Key) : ps.get? n.1 = some n.raw := (Option.some_get n.2).symm

theorem Key.mem_keys (n : ps.Key) : n.1 ∈ ps.keys := by
  have hentry := mem_entries_of_find? n.get?_eq
  exact List.mem_map_of_mem (f := Prod.fst) hentry

instance : Finite ps.Key := by
  have : Finite {name | name ∈ ps.keys} := List.finite_toSet ps.keys
  exact Finite.of_injective (fun n : ps.Key => (⟨n.1, n.mem_keys⟩ : {name | name ∈ ps.keys}))
    fun n m h => Subtype.ext (congrArg (fun x => x.1) h)

end TextMap

namespace Reference

/-! ## Templates -/

/-- A name that is read as it stands. -/
structure IsLiteral (name : Text) : Prop where
  dollar : '$' ∉ name
  opening : '{' ∉ name
  closing : '}' ∉ name

/-- A piece of a template. -/
inductive Piece (ps : TextMap Text) where
  | char (c : Char) (h : c ≠ '$')
  /-- Two dollar signs. -/
  | dollar
  | reference (name : ps.Key) (h : IsLiteral name.1)

/-- A text in pieces. -/
abbrev Template (ps : TextMap Text) := List (Piece ps)

namespace Piece

/-- The text of a piece. -/
def text : Piece ps → Text
  | char c _ => [c]
  | dollar => ['$', '$']
  | reference name _ => (Body.ofText name.1).text

/-- What becomes of a piece when the stored names have values. -/
def fill (val : ps.Key → Text) : Piece ps → Text
  | char c _ => [c]
  | dollar => ['$']
  | reference name _ => val name

/-- How a piece is scanned. -/
def segment : Piece ps → Segment
  | char c _ => .char c
  | dollar => .escape
  | reference name _ => .reference (.ofText name.1)

theorem segment_injective : Function.Injective (segment : Piece ps → Segment) := by
  intro p q h
  cases p with
  | char c =>
    cases q with
    | char d =>
      obtain rfl := Segment.char.inj h
      rfl
    | dollar | reference => cases h
  | dollar =>
    cases q with
    | dollar => rfl
    | char | reference => cases h
  | reference n =>
    cases q with
    | reference m =>
      have hsource := congrArg Body.source (Segment.reference.inj h)
      rw [Body.source_ofText, Body.source_ofText] at hsource
      obtain rfl := Subtype.ext hsource
      rfl
    | char | dollar => cases h

end Piece

namespace Template

/-- The text of a template. -/
def text (t : Template ps) : Text := t.flatMap Piece.text

/-- The text with every reference replaced by the value of the name, and two dollar signs by one. -/
def fill (val : ps.Key → Text) (t : Template ps) : Text := t.flatMap (Piece.fill val)

/-- The pieces are what is scanned. -/
theorem scans (t : Template ps) : Scans (text t) (t.map Piece.segment) := by
  induction t with
  | nil => exact .ended
  | cons p t ih =>
    cases p with
    | char c h => exact .char (fun hc => h hc.1) (fun hc => h hc.1) ih
    | dollar => exact .escape ih
    | reference n h =>
      have hread := reads_ofText h.dollar h.closing (text t)
      have htext : text (.reference n h :: t) = '$' :: '{' :: (n.1 ++ '}' :: text t) := by
        simp [text, Piece.text, Body.text]
      rw [htext]
      exact .reference hread ih

/-- A text is one template at most. -/
theorem text_injective : Function.Injective (text : Template ps → Text) := by
  intro t t' h
  have hscans := t'.scans
  rw [← h] at hscans
  exact List.map_injective_iff.2 Piece.segment_injective (t.scans.unique hscans)

theorem fill_congr {val val' : ps.Key → Text} {t : Template ps}
    (h : ∀ n hn, .reference n hn ∈ t → val n = val' n) : fill val t = fill val' t := by
  refine List.flatMap_congr fun p hp => ?_
  cases p with
  | char | dollar => rfl
  | reference n hn => exact h n hn hp

end Template

/-! ## References between names -/

/-- The text of a name refers to a name. -/
def RefersTo (n m : ps.Key) : Prop :=
  ∃ t : Template ps, t.text = n.raw ∧ ∃ h, .reference m h ∈ t

/-- If no name leads back to itself, the references from name to name come to an end. -/
theorem wellFounded_refersTo (acyclic : ∀ n : ps.Key, ¬Relation.TransGen RefersTo n n) :
    WellFounded fun m n : ps.Key => RefersTo n m := by
  let leads (m n : ps.Key) : Prop := Relation.TransGen RefersTo n m
  have : IsTrans ps.Key leads := ⟨fun _ _ _ h h' => h'.trans h⟩
  have : Std.Irrefl leads := ⟨acyclic⟩
  exact Subrelation.wf (r := leads) Relation.TransGen.single
    (Finite.wellFounded_of_trans_of_irrefl leads)

/-- A rank that references lower keeps names from leading back to themselves. -/
theorem acyclic_of_rank (rank : ps.Key → Nat) (h : ∀ n m, RefersTo n m → rank m < rank n)
    (n : ps.Key) : ¬Relation.TransGen RefersTo n n := by
  have hlower : ∀ m, Relation.TransGen RefersTo n m → rank m < rank n := by
    intro m hm
    induction hm with
    | single hm => exact h _ _ hm
    | tail _ hm ih => exact Nat.lt_trans (h _ _ hm) ih
  exact fun hn => Nat.lt_irrefl _ (hlower n hn)

/-! ## Values -/

/-- The value of every stored name is its text with the values of names filled in. -/
def Solves (val : ps.Key → Text) : Prop :=
  ∀ (n : ps.Key) (t : Template ps), t.text = n.raw → val n = t.fill val

open Classical in
/-- There is one solution. Existence is by recursion over the references and uniqueness by
induction. -/
theorem existsUnique_solves (templates : ∀ n : ps.Key, ∃ t : Template ps, t.text = n.raw)
    (acyclic : ∀ n : ps.Key, ¬Relation.TransGen RefersTo n n) :
    ∃! val : ps.Key → Text, Solves val := by
  have wf := wellFounded_refersTo acyclic
  choose template htemplate using templates
  let val : ps.Key → Text := wf.fix fun n val =>
    Template.fill (fun m => if h : RefersTo n m then val m h else []) (template n)
  have hval (n : ps.Key) : val n = (template n).fill val := by
    refine (wf.fix_eq _ n).trans (Template.fill_congr fun m hm hmem => ?_)
    exact dif_pos ⟨template n, htemplate n, hm, hmem⟩
  refine ⟨val, fun n t ht => ?_, fun val' hval' => funext fun n => ?_⟩
  · obtain rfl := Template.text_injective (ht.trans (htemplate n).symm)
    exact hval n
  · induction n using wf.induction with
    | _ n ih =>
      rw [hval' n _ (htemplate n), hval n]
      exact Template.fill_congr fun m hm hmem => ih m ⟨_, htemplate n, hm, hmem⟩

end Reference

end Interpolation
