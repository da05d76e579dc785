import Reshape.Document.Reader
import Reshape.Proofs.Results
import Reshape.Proofs.Sameness

/-!
# Distinct keys

Entries are put into an object one after the other: one of a new key goes to the end, and another
one takes the place of that of its key, `put_of_not_mem` and `map_fst_put_of_mem`. So keys that are
distinct stay distinct, and no document that is read from a text has an object with two entries of
one key: `distinctKeys_of_read`. Entries of distinct keys stay as they are: `merge_eq_self`.
-/

namespace Reshape

namespace Document

/-! ## Entries put in one after the other -/

section Put

variable {entries : List (String × Document)} {key : String} {d : Document}

theorem put_of_not_mem (h : key ∉ entries.map Prod.fst) :
    put entries key d = entries ++ [(key, d)] := by
  induction entries with
  | nil => rfl
  | cons e rest ih =>
    obtain ⟨k, v⟩ := e
    obtain ⟨hk, hrest⟩ := not_or.1 (mt List.mem_cons.2 h)
    rw [put, if_neg (Ne.symm hk), ih hrest, List.cons_append]

theorem map_fst_put_of_mem (h : key ∈ entries.map Prod.fst) :
    (put entries key d).map Prod.fst = entries.map Prod.fst := by
  induction entries with
  | nil => exact absurd h List.not_mem_nil
  | cons e rest ih =>
    obtain ⟨k, v⟩ := e
    unfold put
    split
    · rfl
    · rename_i hk
      rw [List.map_cons, List.map_cons, ih ((List.mem_cons.1 h).resolve_left (Ne.symm hk))]

theorem nodup_put (h : (entries.map Prod.fst).Nodup) :
    ((put entries key d).map Prod.fst).Nodup := by
  by_cases hmem : key ∈ entries.map Prod.fst
  · rwa [map_fst_put_of_mem hmem]
  · rw [put_of_not_mem hmem, List.map_append]
    exact h.append (List.nodup_singleton key) (List.disjoint_singleton.2 hmem)

theorem forall_mem_put {P : Document → Prop} (h : ∀ e ∈ entries, P e.2) (hd : P d) :
    ∀ e ∈ put entries key d, P e.2 := by
  induction entries with
  | nil => exact List.forall_mem_singleton.2 hd
  | cons e rest ih =>
    obtain ⟨k, v⟩ := e
    obtain ⟨hv, hrest⟩ := List.forall_mem_cons.1 h
    unfold put
    split
    · exact List.forall_mem_cons.2 ⟨hd, hrest⟩
    · exact List.forall_mem_cons.2 ⟨hv, ih hrest⟩

end Put

/-- An object that is put together from documents with distinct keys has distinct keys. -/
theorem distinctKeys_merge {entries : List (String × Document)}
    (h : ∀ e ∈ entries, e.2.DistinctKeys) : (object (merge entries)).DistinctKeys := by
  suffices hfold : ∀ before : List (String × Document), (before.map Prod.fst).Nodup →
      (∀ e ∈ before, e.2.DistinctKeys) →
      (object (entries.foldl (fun before e => put before e.1 e.2) before)).DistinctKeys from
    hfold [] List.nodup_nil nofun
  induction entries with
  | nil => exact fun before hkeys hbefore => .object hkeys hbefore
  | cons e rest ih =>
    obtain ⟨he, hrest⟩ := List.forall_mem_cons.1 h
    exact fun before hkeys hbefore =>
      ih hrest _ (nodup_put hkeys) (forall_mem_put hbefore he)

/-- Entries of distinct keys stay in their places. -/
theorem merge_eq_self {entries : List (String × Document)} (h : (entries.map Prod.fst).Nodup) :
    merge entries = entries := by
  suffices hfold : ∀ before : List (String × Document),
      ((before ++ entries).map Prod.fst).Nodup →
      entries.foldl (fun before e => put before e.1 e.2) before = before ++ entries from
    hfold [] h
  clear h
  induction entries with
  | nil => exact fun before _ => (List.append_nil before).symm
  | cons e rest ih =>
    intro before h
    have hfresh : e.1 ∉ before.map Prod.fst := by
      rw [List.map_append, List.map_cons] at h
      exact fun hmem => (List.nodup_append.1 h).2.2 _ hmem _ List.mem_cons_self rfl
    rw [← List.singleton_append, ← List.append_assoc] at h
    rw [List.foldl_cons, put_of_not_mem hfresh, ih _ h, List.append_assoc, List.singleton_append]

/-! ## Reading -/

theorem value_of_word {α : Type} {value v : α} {ws cs rest : List Char}
    (h : word value ws cs = .ok (v, rest)) : v = value := by
  induction ws generalizing cs with
  | nil =>
    cases h
    rfl
  | cons w ws ih =>
    cases cs with
    | nil => cases h
    | cons c cs =>
      unfold word at h
      split at h
      · exact ih h
      · cases h

theorem value_of_fixedWord {d : Document} {letters cs : List Char} {c : Char}
    {p : Piece Document (c :: cs)} (h : fixedWord d letters c cs = .ok p) : p.value = d := by
  unfold fixedWord at h
  split at h
  · rename_i hword
    cases h
    exact value_of_word hword
  · cases h

theorem value_of_numeral {cs : List Char} {p : Piece Document cs} (h : numeral cs = .ok p) :
    ∃ x, p.value = .number x := by
  unfold numeral at h
  dsimp only at h
  split at h
  · split at h
    · split at h
      · cases h
        exact ⟨_, rfl⟩
      · cases h
    · cases h
  · cases h

-- the cases are those of the reader, and so is the recursion: the text gets shorter
mutual

theorem distinctKeys_of_value {room : Nat} {cs : List Char} {p : Piece Document cs}
    (h : value room cs = .ok p) : p.value.DistinctKeys := by
  have hword {d : Document} {letters rest : List Char} {c : Char}
      {hr : (c :: rest).length ≤ cs.length} (hd : d.DistinctKeys)
      (h : (fixedWord d letters c rest).map (fun q => q.widen hr) = .ok p) :
      p.value.DistinctKeys := by
    obtain ⟨q, hq, hp⟩ := map_eq_ok_iff.1 h
    rw [← hp]
    exact value_of_fixedWord hq ▸ hd
  unfold value at h
  split at h
  · cases h
  · rename_i c rest hcs
    have hr : rest.length < cs.length := length_le_of_skipSpace hcs
    split_ifs at h
    · exact hword .null h
    · exact hword (.bool true) h
    · exact hword (.bool false) h
    · obtain ⟨body, -, h⟩ := bind_eq_ok_iff.1 h
      cases h
      exact .string _
    · split at h
      · cases h
      · cases h
      · cases h
        exact .array nofun
      · obtain ⟨list, hlist, h⟩ := bind_eq_ok_iff.1 h
        cases h
        exact .array (distinctKeys_of_items hlist)
    · split at h
      · cases h
      · cases h
      · cases h
        exact .object List.nodup_nil nofun
      · obtain ⟨list, hlist, h⟩ := bind_eq_ok_iff.1 h
        cases h
        exact distinctKeys_merge (distinctKeys_of_entries hlist)
    · obtain ⟨q, hq, rfl⟩ := map_eq_ok_iff.1 h
      obtain ⟨x, hx⟩ := value_of_numeral hq
      exact (hx ▸ .number trivial : q.value.DistinctKeys)
    · cases h
termination_by (cs.length, 0)

theorem distinctKeys_of_items {room : Nat} {cs : List Char} {p : Piece (List Document) cs}
    (h : items room cs = .ok p) : ∀ d ∈ p.value, d.DistinctKeys := by
  unfold items at h
  obtain ⟨item, hitem, h⟩ := bind_eq_ok_iff.1 h
  have hd : item.value.DistinctKeys := distinctKeys_of_value hitem
  have hi := item.shorter
  split at h
  · cases h
  · rename_i c rest hrest
    have hr : rest.length < cs.length := by
      have := length_le_of_skipSpace hrest
      omega
    split_ifs at h
    · cases h
      exact List.forall_mem_singleton.2 hd
    · cases h
    · obtain ⟨more, hmore, h⟩ := bind_eq_ok_iff.1 h
      cases h
      exact List.forall_mem_cons.2 ⟨hd, distinctKeys_of_items hmore⟩
    · cases h
termination_by (cs.length, 1)

theorem distinctKeys_of_entries {room : Nat} {cs : List Char}
    {p : Piece (List (String × Document)) cs} (h : entries room cs = .ok p) :
    ∀ e ∈ p.value, e.2.DistinctKeys := by
  unfold entries at h
  split at h
  · cases h
  · rename_i q rest hcs
    split_ifs at h
    · obtain ⟨key, -, h⟩ := bind_eq_ok_iff.1 h
      obtain ⟨mark, -, h⟩ := bind_eq_ok_iff.1 h
      have hv : mark.rest.length < cs.length := by
        have := length_le_of_skipSpace hcs
        have := key.shorter
        have := mark.shorter
        omega
      obtain ⟨member, hmember, h⟩ := bind_eq_ok_iff.1 h
      have hd : member.value.DistinctKeys := distinctKeys_of_value hmember
      split at h
      · cases h
      · rename_i c after hafter
        have hr : after.length < cs.length := by
          have := length_le_of_skipSpace hafter
          have := member.shorter
          omega
        split_ifs at h
        · cases h
          exact List.forall_mem_singleton.2 hd
        · cases h
        · obtain ⟨more, hmore, h⟩ := bind_eq_ok_iff.1 h
          cases h
          exact List.forall_mem_cons.2 ⟨hd, distinctKeys_of_entries hmore⟩
        · cases h
    · cases h
termination_by (cs.length, 0)

end

/-- No object of a document that is read from a text has two entries of one key. -/
theorem distinctKeys_of_read {text : String} {d : Document} (h : read text = .ok d) :
    d.DistinctKeys := by
  obtain ⟨p, hp, hend⟩ := bind_eq_ok_iff.1 (mapError_eq_ok_iff.1 h)
  unfold toEnd at hend
  split at hend
  · cases hend
    exact distinctKeys_of_value hp
  · cases hend

end Document

end Reshape
