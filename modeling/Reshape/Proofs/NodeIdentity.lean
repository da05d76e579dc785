import Reshape.Proofs.Dispatches
import Reshape.Proofs.Equivalence
import Reshape.Proofs.Picking

/-!
# The identity of nodes on a chain

Nodes are told apart by their positions, or by addresses of which no two nodes have
the same. In a document, other nodes may have the same content. On a chain this
cannot be: its links lead down to the place of the dispatch, `Chain.LeadsTo`, and no
node is the same as one below it, which has less height. So it makes no difference
whether a dispatch compares its node with those of its chain by address or by
content, `chain_nodes_compare_alike`, and the guard against revisits could do either:
`Dispatch.Arises.refused_iff_identical`.
-/

namespace Reshape

/-! ## No node is the same as one below it -/

theorem Number.identical_symm {x y : Number} (h : x.identical y = true) :
    y.identical x = true := by
  cases x <;> cases y <;> simp only [identical, beq_iff_eq, Bool.false_eq_true] at h ⊢ <;>
    exact h.symm

namespace Document

variable {numbers : Number → Number → Bool} {a b d c : Document}

theorem itemHeight_le {items : List Document} {n : Nat} (h : ∀ d ∈ items, d.height ≤ n) :
    itemHeight items ≤ n := by
  induction items with
  | nil => exact Nat.zero_le n
  | cons d rest ih =>
    obtain ⟨hd, hrest⟩ := List.forall_mem_cons.1 h
    exact Nat.max_le.2 ⟨hd, ih hrest⟩

theorem entryHeight_le {entries : List (String × Document)} {n : Nat}
    (h : ∀ e ∈ entries, e.2.height ≤ n) : entryHeight entries ≤ n := by
  induction entries with
  | nil => exact Nat.zero_le n
  | cons e rest ih =>
    obtain ⟨he, hrest⟩ := List.forall_mem_cons.1 h
    exact Nat.max_le.2 ⟨he, ih hrest⟩

/-- What is the same as a document is as high as it at least. -/
theorem height_le_of_sameBy (ha : a.DistinctKeys) (h : sameBy numbers a b = true) :
    a.height ≤ b.height := by
  induction ha generalizing b with
  | null | bool _ | number _ | string _ => exact b.height_pos
  | @array as _ ih =>
    obtain ⟨bs, rfl, hsame⟩ := sameBy_array_iff.1 h
    refine Nat.add_le_add_left (itemHeight_le fun a ha => ?_) 1
    obtain ⟨i, rfl⟩ := List.get_of_mem ha
    obtain ⟨hlength, hget⟩ := List.forall₂_iff_get.1 hsame
    have hi : i < bs.length := hlength ▸ i.isLt
    exact (ih _ ha (hget i i.isLt hi)).trans (height_le_itemHeight (List.get_mem ..))
  | object _ _ ih =>
    obtain ⟨fs, rfl, -, hfind⟩ := sameBy_object_iff.1 h
    refine Nat.add_le_add_left (entryHeight_le fun e he => ?_) 1
    obtain ⟨b, hb, hsame⟩ := hfind e he
    exact (ih e he hsame).trans (height_le_entryHeight (mem_of_find? hb))

theorem identical_comm (ha : a.DistinctKeys) (hb : b.DistinctKeys) :
    a.identical b = b.identical a :=
  Bool.eq_iff_iff.2 ⟨sameBy_symm (fun _ _ => Number.identical_symm) ha hb,
    sameBy_symm (fun _ _ => Number.identical_symm) hb ha⟩

theorem distinctKeys_of_child? (h : d.DistinctKeys) {b : Branch} (hc : d.child? b = some c) :
    c.DistinctKeys := by
  unfold child? at hc
  split at hc
  · cases h with
    | object _ h => exact h _ (mem_of_find? hc)
  · cases h with
    | array h => exact h _ (List.mem_of_getElem? hc)
  · cases hc

theorem distinctKeys_of_at? (h : d.DistinctKeys) {p : Position} (hc : d.at? p = some c) :
    c.DistinctKeys := by
  induction p generalizing d with
  | nil =>
    cases hc
    exact h
  | cons b p ih =>
    obtain ⟨e, he, hc⟩ := Option.bind_eq_some_iff.1 hc
    exact ih (distinctKeys_of_child? h he) hc

end Document

namespace Place

variable {p q : Place}

theorem Reaches.isPrefix (h : p.Reaches q) : p.position <+: q.position := by
  obtain ⟨path, -, hq⟩ := h
  exact ⟨path, hq.symm⟩

theorem Reaches.at? {d : Document} (h : (root d).Reaches p) : d.at? p.position = some p.node := by
  obtain ⟨path, hp, hpath⟩ := h
  rw [hpath]
  exact hp

/-- A place has the same content as one below it only if it is that place. -/
theorem Reaches.identical_iff (h : p.Reaches q) (hp : p.node.DistinctKeys) :
    p.node.identical q.node = true ↔ p = q := by
  constructor
  · intro hsame
    have hle := Document.height_le_of_sameBy hp hsame
    rcases h.eq_or_height_lt with rfl | hlt
    · rfl
    · omega
  · rintro rfl
    exact Document.identical_refl hp

end Place

theorem Addresses.address_eq_iff {d : Document} {α : Type} (m : Addresses d α) {p q : Position}
    {a b : Document} (hp : d.at? p = some a) (hq : d.at? q = some b) :
    m.address p = m.address q ↔ p = q :=
  ⟨m.apart hp hq, congrArg m.address⟩

namespace Transform

/-! ## Chains that lead to a place -/

/-- Each link stands at the place or above it, and at or below the links around it. -/
structure Chain.LeadsTo (root : Document) (chain : Chain) (p : Place) : Prop where
  reached : (Place.root root).Reaches p
  above : ∀ l ∈ chain, ∃ q : Place,
    q.position = l.position ∧ (Place.root root).Reaches q ∧ q.Reaches p
  nested : chain.Pairwise fun inner outer => outer.position <+: inner.position

namespace Chain.LeadsTo

variable {root : Document} {chain : Chain} {p q : Place}

theorem start (root : Document) : LeadsTo root [] (.root root) := ⟨.refl _, nofun, .nil⟩

theorem below (h : LeadsTo root chain p) (hq : p.Reaches q) : LeadsTo root chain q where
  reached := h.reached.trans hq
  above l hl :=
    have ⟨r, hposition, hroot, hp⟩ := h.above l hl
    ⟨r, hposition, hroot, hp.trans hq⟩
  nested := h.nested

theorem isPrefix (h : LeadsTo root chain p) {l : Link} (hl : l ∈ chain) :
    l.position <+: p.position := by
  obtain ⟨q, hposition, -, hp⟩ := h.above l hl
  exact hposition ▸ hp.isPrefix

theorem enter (h : LeadsTo root chain p) (name : String) :
    LeadsTo root (⟨name, p.position⟩ :: chain) p where
  reached := h.reached
  above := List.forall_mem_cons.2 ⟨⟨p, rfl, h.reached, .refl p⟩, h.above⟩
  nested := .cons (fun _ => h.isPrefix) h.nested

end Chain.LeadsTo

theorem Moment.leadsTo {spec : Spec} {root : Document} {chain : Chain} {p : Place}
    (h : Moment spec root chain p) : chain.LeadsTo root p := by
  unfold Moment at h
  generalize hx : (chain, p) = x at h
  induction h using Relation.ReflTransGen.head_induction_on generalizing chain p with
  | refl =>
    cases hx
    exact .start root
  | head hnests _ ih =>
    cases hnests with
    | enter k q _ =>
      cases hx
      exact ((ih rfl).below q.2).enter k.name

theorem Dispatch.Arises.leadsTo {spec : Spec} {root : Document} {d : Dispatch}
    (h : d.Arises spec root) : d.chain.LeadsTo root d.place := by
  obtain ⟨p, hm, hp⟩ := h
  exact hm.leadsTo.below hp

/-! ## Contents and positions -/

/-- The node of a link on the chain has the same content as that of the place just if it is that
node, whichever of the two is compared with the other one. -/
theorem Chain.LeadsTo.identical_iff {root : Document} {chain : Chain} {p : Place}
    (h : chain.LeadsTo root p) (hkeys : root.DistinctKeys) {l : Link} (hl : l ∈ chain) :
    ∃ node, root.at? l.position = some node ∧
      (node.identical p.node = true ↔ l.position = p.position) ∧
      (p.node.identical node = true ↔ l.position = p.position) := by
  obtain ⟨q, hposition, hroot, hbelow⟩ := h.above l hl
  rw [← hposition]
  have hkeysq := Document.distinctKeys_of_at? hkeys hroot.at?
  have hkeysp := Document.distinctKeys_of_at? hkeys h.reached.at?
  have hsame : q.node.identical p.node = true ↔ q.position = p.position := by
    rw [hbelow.identical_iff hkeysq]
    exact ⟨congrArg Place.position, hroot.eq_of_position h.reached⟩
  exact ⟨q.node, hroot.at?, hsame, by rwa [Document.identical_comm hkeysp hkeysq]⟩

/-- A dispatch is refused just if its template is being applied, further out, to a node of the
same content. -/
theorem Dispatch.Arises.refused_iff_identical {spec : Spec} {root : Document} {d : Dispatch}
    (h : d.Arises spec root) (hkeys : root.DistinctKeys) :
    d.refusal? ≠ none ↔ ∃ l ∈ d.chain, l.template = d.template ∧
      ∃ node, root.at? l.position = some node ∧ node.identical d.place.node = true := by
  have hlink : d.refusal? ≠ none ↔ d.link ∈ d.chain := by simp [Dispatch.refusal?]
  rw [hlink]
  constructor
  · intro hmem
    obtain ⟨node, hnode, hsame, -⟩ := h.leadsTo.identical_iff hkeys hmem
    exact ⟨d.link, hmem, rfl, node, hnode, hsame.2 rfl⟩
  · rintro ⟨⟨template, position⟩, hl, rfl, node, hnode, hidentical⟩
    obtain ⟨node', hnode', hsame, -⟩ := h.leadsTo.identical_iff hkeys hl
    obtain rfl := Option.some.inj (hnode.symm.trans hnode')
    obtain rfl : position = d.place.position := hsame.1 hidentical
    exact hl

/-- In every run, the nodes of the links around a dispatch stand on one way down from the root
to the node of the dispatch. Such a node has the address of the node of the dispatch just if it has
the same content, whichever of the two is compared with the other one. -/
theorem chain_nodes_compare_alike (s : Setting) {root : Document} (hkeys : root.DistinctKeys)
    {α : Type} (m : Addresses root α) (start : Option String) :
    (s.watchStart start root).attempt = s.start start root ∧
    ∀ d ∈ (s.watchStart start root).seen,
      root.at? d.place.position = some d.place.node ∧
      ((d.link :: d.chain).Pairwise fun inner outer => outer.position <+: inner.position) ∧
      ∀ l ∈ d.chain, ∃ node, root.at? l.position = some node ∧
        (m.address l.position = m.address d.place.position ↔ node.identical d.place.node = true) ∧
        (m.address l.position = m.address d.place.position
          ↔ d.place.node.identical node = true) := by
  have hfaithful := watchStart_faithful s start root
  refine ⟨hfaithful.attempt, fun d hd => ?_⟩
  have hleads := (hfaithful.arises d hd).leadsTo
  have hplace := hleads.reached.at?
  refine ⟨hplace, (hleads.enter d.template).nested, fun l hl => ?_⟩
  obtain ⟨node, hnode, hinner, houter⟩ := hleads.identical_iff hkeys hl
  have haddress := m.address_eq_iff hnode hplace
  exact ⟨node, hnode, haddress.trans hinner.symm, haddress.trans houter.symm⟩

/-- Two equal items of an array; at each of them, a template is applied to the item again. -/
theorem chain_nodes_compare_alike_equal_items :
    let s : Setting := ⟨⟨.permissive, .empty, none⟩,
      ⟨[⟨some "a", none, .apply "a" none⟩], .apply "a" none, []⟩⟩
    let root : Document := .array [.bool true, .bool true]
    let item (i : Nat) : Place := ⟨.bool true, [.item i]⟩
    let outer (i : Nat) : Dispatch := ⟨[], "a", item i⟩
    let inner (i : Nat) : Dispatch := ⟨[(outer i).link], "a", item i⟩
    let m : Addresses root Position := ⟨id, fun _ _ h => h⟩
    root.DistinctKeys ∧ (s.watchStart none root).seen = [outer 0, inner 0, outer 1, inner 1] ∧
      ∃ node, root.at? (outer 1).link.position = some node ∧
        (m.address (outer 1).link.position = m.address (item 1).position
          ↔ node.identical (item 1).node = true) := by
  intro s root item outer inner m
  have hkeys : root.DistinctKeys := .array (by simp [Document.EachNode.bool])
  have hfirst : s.watch [(outer 0).link] ⟨item 0, root⟩ (.apply "a" none)
      = ⟨⟨.ok none, [.cycle "a" 2]⟩, [inner 0]⟩ := by
    rw [Setting.watch]
    rfl
  have hlast : s.watch [(outer 1).link] ⟨item 1, root⟩ (.apply "a" none)
      = ⟨⟨.ok none, [.cycle "a" 2]⟩, [inner 1]⟩ := by
    rw [Setting.watch]
    rfl
  have hitems : s.watch [] (.ofDocument root) (.apply "a" none)
      = (Watched.noting (outer 0) (s.watch [(outer 0).link] ⟨item 0, root⟩ (.apply "a" none))
          >>= fun first =>
            (Watched.noting (outer 1) (s.watch [(outer 1).link] ⟨item 1, root⟩ (.apply "a" none))
              >>= fun last => pure [last.getD .null])
            >>= fun rest => pure (first.getD .null :: rest))
        >>= fun ds => pure (some (.array ds)) := by
    rw [Setting.watch]
    rfl
  have hseen : (s.watchStart none root).seen = [outer 0, inner 0, outer 1, inner 1] := by
    rw [hfirst, hlast] at hitems
    exact congrArg (fun x => (x >>= fun v => pure (v.getD .null)).seen) hitems
  obtain ⟨-, hdispatches⟩ := chain_nodes_compare_alike s hkeys m none
  obtain ⟨-, -, hlinks⟩ := hdispatches (inner 1) (by simp [hseen])
  obtain ⟨node, hnode, haddress, -⟩ := hlinks (outer 1).link List.mem_cons_self
  exact ⟨hkeys, hseen, node, hnode, haddress⟩

end Transform

end Reshape
