import Reshape.Proofs.Following
import Reshape.Spec.Picking

/-!
# Picking by position

A selector that leads anywhere leads to the position that its steps spell, `Selector.follow_eq`. So
the positions for which a template offers itself can be read off its selector,
`Template.mem_offers_iff`. They are all positions of nodes of the document. Where each node is kept
at an address of its own, a node is picked for by its address just as by its position, and what is
kept elsewhere is picked for by no template: `Spec.candidatesAt_address`,
`Spec.candidatesAt_outside`.
-/

namespace Reshape

/-! ## Where selectors lead -/

theorem Step.Leads.position {steps : List Step} {p q : Place} (h : Step.Leads steps p q) :
    q.position = p.position ++ steps.filterMap Step.branch? := by
  induction h with
  | nil p => exact (List.append_nil _).symm
  | @cons step steps p q r hstep _ ih =>
    have hbranch : q.position = p.position ++ step.branch?.toList := by
      unfold Step.follow at hstep
      split at hstep
      · split at hstep <;> cases hstep
        rfl
      · split at hstep <;> cases hstep
        rfl
      · cases hstep
        exact (List.append_nil _).symm
      · cases hstep
    rw [ih, hbranch, List.append_assoc, List.filterMap_cons]
    cases step.branch? <;> rfl

namespace Selector

/-- The position that the steps spell; a step to every item stays. -/
def position (s : Selector) : Position := s.steps.filterMap Step.branch?

variable {s : Selector} {d : Document}

/-- A selector that leads anywhere leads to the node at the position that its steps spell. -/
theorem follow_eq {p : Place} (h : s.follow (.root d) = .ok p) :
    p.position = s.position ∧ d.at? s.position = some p.node := by
  have hposition : p.position = s.position := (follow_eq_ok_iff.1 h).position
  obtain ⟨path, hnode, hpath⟩ := follow_reaches h
  refine ⟨hposition, ?_⟩
  rw [← hposition, hpath]
  exact hnode

end Selector

namespace Template

/-- The selector of the template finds something in the document, and the position is the one that
the selector spells or, if an array stands there, one branch to an item further. -/
def IsFor (t : Template) (d : Document) (p : Position) : Prop :=
  ∃ path value, t.picks = some path ∧ (∃ found, path.find d = .ok found) ∧
    d.at? path.position = some value ∧
    (path.position = p ∧ value.kind ≠ .array ∨
      value.kind = .array ∧ ∃ i, p = path.position ++ [.item i])

end Template

/-! ## The positions that are offered -/

/-- A place stands for itself, or for each of its items if it is an array. -/
theorem Place.mem_offered_iff {p : Place} {position : Position} : position ∈ p.offered ↔
    p.position = position ∧ p.node.kind ≠ .array ∨
      ∃ ds i, p.node = .array ds ∧ i < ds.length ∧ position = p.position ++ [.item i] := by
  obtain ⟨node, start⟩ := p
  unfold Place.offered
  cases node with
  | array ds =>
    have hkind : ¬ (Document.array ds).kind ≠ .array := not_not_intro rfl
    simp only [hkind, and_false, false_or, List.mem_map, Place.items, List.mem_mapIdx]
    constructor
    · rintro ⟨_, ⟨i, hi, rfl⟩, rfl⟩
      exact ⟨ds, i, rfl, hi, rfl⟩
    · rintro ⟨_, i, ⟨⟩, hi, rfl⟩
      exact ⟨_, ⟨i, hi, rfl⟩, rfl⟩
  | _ => simp [Document.kind, eq_comm]

namespace Template

variable {t : Template} {d : Document} {p : Position}

theorem mem_offers_iff_follow : p ∈ t.offers d ↔
    ∃ path place, t.picks = some path ∧ path.follow (.root d) = .ok place ∧ p ∈ place.offered := by
  unfold offers
  cases t.picks with
  | none => simp
  | some path => cases hplace : path.follow (.root d) <;> simp [hplace]

/-- A template offers itself for nodes of the document only. -/
theorem exists_node_of_mem_offers (h : p ∈ t.offers d) : ∃ node, d.at? p = some node := by
  obtain ⟨path, place, -, hplace, hp⟩ := mem_offers_iff_follow.1 h
  obtain ⟨hposition, hnode⟩ := Selector.follow_eq hplace
  rw [← hposition] at hnode
  rcases Place.mem_offered_iff.1 hp with ⟨rfl, -⟩ | ⟨ds, i, hds, hi, rfl⟩
  · exact ⟨_, hnode⟩
  · refine ⟨ds[i], ?_⟩
    rw [Document.at?_append, hnode, hds]
    simp [Document.at?, Document.child?, hi]

theorem mem_offers_iff {node : Document} (hp : d.at? p = some node) :
    p ∈ t.offers d ↔ t.IsFor d p := by
  rw [mem_offers_iff_follow]
  constructor
  · rintro ⟨path, place, hpath, hplace, hoffered⟩
    obtain ⟨hposition, hnode⟩ := Selector.follow_eq hplace
    refine ⟨path, place.node, hpath, ⟨place.node, ?_⟩, hnode, ?_⟩
    · rw [Selector.find, hplace]
      rfl
    · rw [← hposition]
      refine (Place.mem_offered_iff.1 hoffered).imp_right ?_
      rintro ⟨ds, i, hds, -, hi⟩
      exact ⟨by rw [hds]; rfl, i, hi⟩
  · rintro ⟨path, value, hpath, ⟨found, hfound⟩, hvalue, hcases⟩
    obtain ⟨place, hplace, -⟩ := map_eq_ok_iff.1 hfound
    obtain ⟨hposition, hnode⟩ := Selector.follow_eq hplace
    obtain rfl := Option.some.inj (hnode.symm.trans hvalue)
    refine ⟨path, place, hpath, hplace, Place.mem_offered_iff.2 ?_⟩
    rw [hposition]
    refine hcases.imp_right ?_
    rintro ⟨hkind, i, rfl⟩
    cases harray : place.node with
    | array ds =>
      refine ⟨ds, i, rfl, ?_, rfl⟩
      rw [Document.at?_append, hnode, harray] at hp
      have hitem : (ds[i]?.bind fun c => c.at? []) = some node := hp
      obtain ⟨item, hitem, -⟩ := Option.bind_eq_some_iff.1 hitem
      exact (List.getElem?_eq_some_iff.1 hitem).1
    | _ =>
      rw [harray] at hkind
      cases hkind

end Template

/-! ## Nodes at addresses -/

/-- Where the nodes of a document are kept. No two of them have one address. -/
structure Addresses (d : Document) (α : Type) where
  address : Position → α
  apart {p q : Position} {a b : Document} (hp : d.at? p = some a) (hq : d.at? q = some b)
    (h : address p = address q) : p = q

namespace Spec

variable {α : Type} [DecidableEq α] {d : Document}

/-- The templates, with their indices, that offer themselves for the node at an address. -/
def candidatesAt (s : Spec) (m : Addresses d α) (a : α) : List (Nat × Template) :=
  (s.templates.mapIdx Prod.mk).filter fun (_, t) => a ∈ (t.offers d).map m.address

/-- The first template that offers itself for the node at an address. -/
def pickAt? (s : Spec) (m : Addresses d α) (a : α) : Option (Nat × Template) :=
  (s.templates.mapIdx Prod.mk).find? fun (_, t) => a ∈ (t.offers d).map m.address

variable {s : Spec} {m : Addresses d α} {p : Position} {node : Document}

theorem pickAt?_eq_head? (s : Spec) (m : Addresses d α) (a : α) :
    s.pickAt? m a = (s.candidatesAt m a).head? :=
  List.head?_filter.symm

theorem candidatesAt_address (hp : d.at? p = some node) :
    s.candidatesAt m (m.address p) = s.candidates d p := by
  refine List.filter_congr fun ⟨_, t⟩ _ => ?_
  rw [decide_eq_decide, List.mem_map]
  constructor
  · rintro ⟨q, hq, haddress⟩
    obtain ⟨node', hnode'⟩ := Template.exists_node_of_mem_offers hq
    rwa [← m.apart hnode' hp haddress]
  · intro h
    exact ⟨p, h, rfl⟩

theorem candidatesAt_outside {a : α} (h : ∀ p node, d.at? p = some node → m.address p ≠ a) :
    s.candidatesAt m a = [] := by
  refine List.filter_eq_nil_iff.2 fun ⟨_, t⟩ _ ha => ?_
  obtain ⟨p, hp, haddress⟩ := List.mem_map.1 (of_decide_eq_true ha)
  obtain ⟨node, hnode⟩ := Template.exists_node_of_mem_offers hp
  exact h p node hnode haddress

theorem mem_candidates_iff (hp : d.at? p = some node) {i : Nat} {t : Template} :
    (i, t) ∈ s.candidates d p ↔ s.templates[i]? = some t ∧ t.IsFor d p := by
  rw [candidates, List.mem_filter, decide_eq_true_iff, Template.mem_offers_iff hp]
  refine and_congr_left' ?_
  simp [List.mem_mapIdx, List.getElem?_eq_some_iff]

theorem pairwise_candidates : (s.candidates d p).Pairwise fun a b => a.1 < b.1 := by
  refine List.Pairwise.filter _ (List.pairwise_iff_getElem.2 fun i j hi hj hij => ?_)
  rw [List.getElem_mapIdx, List.getElem_mapIdx]
  exact hij

/-- For a node of a document, given by its address, those templates are candidates, in the order of
their indices, whose selectors lead there or to an array of which the node is an item. The first
candidate is picked. For what is no node of the document, there is no candidate. -/
theorem picking_is_by_position (s : Spec) (d : Document) (m : Addresses d α) :
    (∀ p node, d.at? p = some node →
      s.candidatesAt m (m.address p) = s.candidates d p ∧
      ((s.candidates d p).Pairwise fun a b => a.1 < b.1) ∧
      (∀ i t, (i, t) ∈ s.candidates d p ↔ s.templates[i]? = some t ∧ t.IsFor d p) ∧
      s.pickAt? m (m.address p) = s.pick? d p ∧
      s.pick? d p = (s.candidates d p).head?) ∧
    ∀ a, (∀ p node, d.at? p = some node → m.address p ≠ a) →
      s.candidatesAt m a = [] ∧ s.pickAt? m a = none := by
  refine ⟨fun p node hp => ?_, fun a ha => ?_⟩
  · have haddress : s.candidatesAt m (m.address p) = s.candidates d p := candidatesAt_address hp
    refine ⟨haddress, pairwise_candidates, fun i t => mem_candidates_iff hp, ?_,
      pick?_eq_head? s d p⟩
    rw [pickAt?_eq_head?, haddress, pick?_eq_head?]
  · have hnone : s.candidatesAt m a = [] := candidatesAt_outside ha
    exact ⟨hnone, by rw [pickAt?_eq_head?, hnone]; rfl⟩

/-- Two equal items of an array, and a copy of them that is kept elsewhere. -/
theorem picking_is_by_position_equal_items :
    let user : Document := .object [("name", .string "a")]
    let d : Document := .object [("users", .array [user, user])]
    let item (i : Nat) : Position := [.member "users", .item i]
    let all : Template := ⟨some "all", some ⟨"$.users[*]", [.property "users", .every]⟩,
      .literal .null⟩
    let last : Template := ⟨some "last", some ⟨"$.users[1]", [.property "users", .index 1]⟩,
      .literal .null⟩
    let s : Spec := ⟨[⟨none, none, .literal .null⟩, all, last], .literal .null, []⟩
    ∃ m : Addresses d (Option Position),
      (d.at? (item 0) = some user ∧ d.at? (item 1) = some user) ∧
        (∀ p node, d.at? p = some node → m.address p ≠ none) ∧
        (s.candidatesAt m (m.address (item 0))).map Prod.fst = [1] ∧
        (s.candidatesAt m (m.address (item 1))).map Prod.fst = [1, 2] ∧
        s.candidatesAt m none = [] := by
  intro user d item all last s
  let m : Addresses d (Option Position) := ⟨some, fun _ _ h => Option.some.inj h⟩
  have hnowhere : ∀ p node, d.at? p = some node → m.address p ≠ none := nofun
  obtain ⟨hinside, houtside⟩ := picking_is_by_position s d m
  have hfirst : d.at? (item 0) = some user := rfl
  have hlast : d.at? (item 1) = some user := rfl
  refine ⟨m, ⟨hfirst, hlast⟩, hnowhere, ?_, ?_, (houtside none hnowhere).1⟩
  · rw [(hinside _ _ hfirst).1]
    decide +kernel
  · rw [(hinside _ _ hlast).1]
    decide +kernel

end Spec

end Reshape
