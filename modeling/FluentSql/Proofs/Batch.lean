import FluentSql.Proofs.Statement
import FluentSql.Query.Call
import FluentSql.Run.Read
import Mathlib.Data.List.Lex
import Mathlib.Data.List.Sort

/-! # Batches as trees

A query, its siblings, their siblings and so on are a tree.  A node of it is found by its address,
the numbers of the siblings on the way down (`Query.nodeAt?`).  The batch of a query holds one
entry for each address, in lexicographic order (`Query.inPreOrder`): each node stands before what is
below it, and this stands together, before the next sibling of the node.

The nodes are compiled one by one, so a batch compiles if all of its nodes do, and else the first
failing node decides the error (`Query.compileList_eq_error_iff`).  No part of a node but its own
siblings is seen by other nodes (`Query.map_compile_batch_replaceAt`). -/

namespace FluentSql

namespace Query

/-! ### Addresses -/

/-- The node at an address. -/
def nodeAt? (q : Query) : List Nat → Option Query
  | [] => some q
  | i :: p => q.siblings[i]?.bind fun r => r.nodeAt? p

mutual

/-- The addresses of the nodes, in the order of the batch. -/
def addresses : Query → List (List Nat)
  | ⟨_, _, _, _, _, _, _, _, _, _, _, _, _, _, siblings, _, _, _, _⟩ =>
      [] :: addressesFrom 0 siblings

/-- The addresses of the nodes of several siblings, of which the first has the number `i`. -/
def addressesFrom (i : Nat) : List Query → List (List Nat)
  | [] => []
  | q :: qs => q.addresses.map (i :: ·) ++ addressesFrom (i + 1) qs

end

theorem addresses_eq (q : Query) : q.addresses = [] :: addressesFrom 0 q.siblings := by
  cases q
  rw [addresses]

theorem nodeAt?_cons (q : Query) (i : Nat) (p : List Nat) :
    q.nodeAt? (i :: p) = q.siblings[i]?.bind fun r => r.nodeAt? p := rfl

theorem mem_addressesFrom {i : Nat} {qs : List Query} {p : List Nat} :
    p ∈ addressesFrom i qs ↔ ∃ j q p', p = (i + j) :: p' ∧ qs[j]? = some q ∧ p' ∈ q.addresses := by
  induction qs generalizing i with
  | nil => simp [addressesFrom]
  | cons q qs ih =>
      rw [addressesFrom, List.mem_append, List.mem_map, ih]
      constructor
      · rintro (⟨p', hp', rfl⟩ | ⟨j, r, p', rfl, hr, hp'⟩)
        · exact ⟨0, q, p', rfl, rfl, hp'⟩
        · exact ⟨j + 1, r, p', by rw [Nat.add_assoc, Nat.add_comm 1 j], hr, hp'⟩
      · rintro ⟨_ | j, r, p', rfl, hr, hp'⟩
        · obtain rfl := Option.some.inj hr
          exact .inl ⟨p', hp', rfl⟩
        · exact .inr ⟨j, r, p', by rw [Nat.add_assoc, Nat.add_comm 1 j], hr, hp'⟩

/-- The addresses are those at which there is a node. -/
theorem mem_addresses_iff {p : List Nat} :
    ∀ {q : Query}, p ∈ q.addresses ↔ (q.nodeAt? p).isSome := by
  induction p with
  | nil =>
      intro q
      rw [addresses_eq]
      simp [nodeAt?]
  | cons i p ih =>
      intro q
      rw [addresses_eq, List.mem_cons, mem_addressesFrom, nodeAt?_cons, or_iff_right (by simp)]
      constructor
      · rintro ⟨j, r, p', hp, hr, hp'⟩
        rw [Nat.zero_add] at hp
        obtain ⟨rfl, rfl⟩ := List.cons.inj hp
        rw [hr, Option.bind_some]
        exact ih.mp hp'
      · intro hp
        obtain ⟨r, hr⟩ := Option.isSome_iff_exists.mp (Option.isSome_of_isSome_bind hp)
        rw [hr, Option.bind_some] at hp
        exact ⟨i, r, p, by rw [Nat.zero_add], hr, ih.mpr hp⟩

mutual

/-- The addresses are in strictly increasing lexicographic order. -/
theorem pairwise_addresses : ∀ q : Query, q.addresses.Pairwise (· < ·)
  | ⟨_, _, _, _, _, _, _, _, _, _, _, _, _, _, siblings, _, _, _, _⟩ => by
      rw [addresses, List.pairwise_cons]
      refine ⟨fun p hp => ?_, pairwise_addressesFrom 0 siblings⟩
      obtain ⟨j, q, p', rfl, -, -⟩ := mem_addressesFrom.mp hp
      exact List.nil_lt_cons _ _

theorem pairwise_addressesFrom (i : Nat) : ∀ qs : List Query,
    (addressesFrom i qs).Pairwise (· < ·)
  | [] => by
      rw [addressesFrom]
      exact List.Pairwise.nil
  | q :: qs => by
      rw [addressesFrom, List.pairwise_append, List.pairwise_map]
      refine ⟨?_, pairwise_addressesFrom (i + 1) qs, ?_⟩
      · exact (pairwise_addresses q).imp fun {p p'} h => List.cons_lt_cons_iff.mpr (.inr ⟨rfl, h⟩)
      · intro p hp p' hp'
        obtain ⟨r, -, rfl⟩ := List.mem_map.mp hp
        obtain ⟨j, s, r', rfl, -, -⟩ := mem_addressesFrom.mp hp'
        exact List.cons_lt_cons_iff.mpr (.inl (by omega))

end

mutual

/-- The batch holds the nodes at the addresses. -/
theorem map_some_batch : ∀ q : Query, q.batch.map some = q.addresses.map q.nodeAt?
  | ⟨columns, fromClause, sample, arrayJoin, joins, preWheres, wheres, groups, havings, orders,
      limitBy, limit, unions, format, siblings, tables, settings, cluster, fault⟩ => by
      rw [batch, addresses, List.map_cons, List.map_cons]
      exact congrArg _ (map_some_batchList siblings 0 _ fun j => by rw [Nat.zero_add])

theorem map_some_batchList : ∀ (qs : List Query) (i : Nat) (q : Query),
    (∀ j : Nat, q.siblings[i + j]? = qs[j]?) →
      (batchList qs).map some = (addressesFrom i qs).map q.nodeAt?
  | [], _, _, _ => by
      rw [batchList, addressesFrom]
      rfl
  | r :: rs, i, q, h => by
      have hr : q.siblings[i]? = some r := h 0
      have hnode : q.nodeAt? ∘ (i :: ·) = r.nodeAt? := by
        funext p
        rw [Function.comp_apply, nodeAt?_cons, hr, Option.bind_some]
      have hrs : ∀ j : Nat, q.siblings[i + 1 + j]? = rs[j]? := by
        intro j
        rw [Nat.add_assoc, Nat.add_comm 1 j]
        exact h (j + 1)
      rw [batchList, addressesFrom, List.map_append, List.map_append, List.map_map, hnode,
        map_some_batch r, map_some_batchList rs (i + 1) q hrs]

end

/-- The addresses of the nodes below a sibling stand together. -/
theorem exists_addressesFrom_eq {qs : List Query} {j : Nat} {r : Query} (h : qs[j]? = some r)
    (i : Nat) : ∃ before after,
      addressesFrom i qs = before ++ (r.addresses.map ((i + j) :: ·) ++ after) := by
  induction qs generalizing i j with
  | nil => cases h
  | cons q qs ih =>
      rw [addressesFrom]
      cases j with
      | zero =>
          obtain rfl := Option.some.inj h
          exact ⟨[], _, rfl⟩
      | succ j =>
          obtain ⟨before, after, hqs⟩ := ih h (i + 1)
          refine ⟨q.addresses.map (i :: ·) ++ before, after, ?_⟩
          rw [hqs, List.append_assoc, Nat.add_assoc, Nat.add_comm 1 j]

/-- The addresses of the nodes below a node stand together. -/
theorem exists_addresses_eq {p : List Nat} : ∀ {q r : Query}, q.nodeAt? p = some r →
    ∃ before after, q.addresses = before ++ (r.addresses.map (p ++ ·) ++ after) := by
  induction p with
  | nil =>
      intro q r h
      obtain rfl := Option.some.inj h
      exact ⟨[], [], by simp⟩
  | cons i p ih =>
      intro q r h
      rw [nodeAt?_cons] at h
      obtain ⟨s, hs, hr⟩ := Option.bind_eq_some_iff.mp h
      obtain ⟨before, after, hsub⟩ := ih hr
      obtain ⟨before', after', hq⟩ := exists_addressesFrom_eq hs 0
      refine ⟨[] :: (before' ++ before.map (i :: ·)), after.map (i :: ·) ++ after', ?_⟩
      rw [addresses_eq, hq, hsub]
      simp [Function.comp_def]

/-- The list `ps` goes over the tree of a query in pre-order, and `rs` are the nodes on the way. -/
structure PreOrder (q : Query) (ps : List (List Nat)) (rs : List Query) : Prop where
  increasing : ps.Pairwise (· < ·)
  complete : ∀ p, p ∈ ps ↔ (q.nodeAt? p).isSome
  nodes : rs.map some = ps.map q.nodeAt?
  /-- What is below a node follows it without anything in between. -/
  together : ∀ p r, q.nodeAt? p = some r →
    ∃ before after, ps = before ++ (r.addresses.map (p ++ ·) ++ after)

theorem preOrder_batch (q : Query) : q.PreOrder q.addresses q.batch where
  increasing := pairwise_addresses q
  complete _ := mem_addresses_iff
  nodes := map_some_batch q
  together _ _ h := exists_addresses_eq h

/-! ### Compiling the nodes -/

theorem compileList_eq_mapM (qs : List Query) : compileList qs = qs.mapM compile := by
  induction qs with
  | nil => rw [compileList, List.mapM_nil]; rfl
  | cons q qs ih => rw [compileList, List.mapM_cons, ih]

theorem compileList_eq_ok_iff {qs : List Query} {cs : List CompiledQuery} :
    compileList qs = .ok cs ↔ List.Forall₂ (fun q c => q.compile = .ok c) qs cs := by
  rw [compileList_eq_mapM, mapM_eq_ok_iff]

/-- The first query that fails decides the error. -/
theorem compileList_eq_error_iff {qs : List Query} {e : QueryError} :
    compileList qs = .error e ↔ ∃ before r after, qs = before ++ r :: after ∧
      (∀ b ∈ before, ∃ c, b.compile = .ok c) ∧ r.compile = .error e := by
  rw [compileList_eq_mapM, mapM_eq_error_iff]

theorem exists_compileList_iff {qs : List Query} :
    (∃ cs, compileList qs = .ok cs) ↔ ∀ q ∈ qs, ∃ c, q.compile = .ok c := by
  simp only [compileList_eq_ok_iff, exists_forall₂_iff]

/-- What a query is compiled to does not depend on its siblings. -/
theorem compile_setSiblings (q : Query) (siblings : List Query) :
    ({ q with siblings := siblings } : Query).compile = q.compile := by
  cases q
  simp only [compile, toSql]

/-! ### Changing one node -/

/-- The query with another node at an address, which keeps the siblings of the node that was
there. -/
def replaceAt (q : Query) : List Nat → Query → Query
  | [], new => { new with siblings := q.siblings }
  | i :: p, new => { q with siblings := q.siblings.modify i fun r => r.replaceAt p new }

/-- Of the nodes only the one that is replaced is compiled to something else. -/
theorem map_compile_nodeAt?_replaceAt (new : Query) (p : List Nat) : ∀ (q : Query) (p' : List Nat),
    ((q.replaceAt p new).nodeAt? p').map compile =
      if p' = p then (q.nodeAt? p').map fun _ => new.compile
      else (q.nodeAt? p').map compile := by
  induction p with
  | nil =>
      intro q p'
      cases p' with
      | nil => simp [replaceAt, nodeAt?, compile_setSiblings]
      | cons j p' => rfl
  | cons i p ih =>
      intro q p'
      cases p' with
      | nil => simp [replaceAt, nodeAt?, compile_setSiblings]
      | cons j p' =>
          have hsiblings : (q.replaceAt (i :: p) new).siblings =
              q.siblings.modify i fun r => r.replaceAt p new := rfl
          rw [nodeAt?_cons, nodeAt?_cons, hsiblings, List.getElem?_modify]
          cases hr : q.siblings[j]? with
          | none => simp
          | some r =>
              by_cases hij : i = j
              · subst hij
                simpa using ih r p'
              · simp [hij, Ne.symm hij]

theorem addresses_replaceAt (q : Query) (p : List Nat) (new : Query) :
    (q.replaceAt p new).addresses = q.addresses := by
  have hmem : ∀ p', p' ∈ (q.replaceAt p new).addresses ↔ p' ∈ q.addresses := by
    intro p'
    have h := congrArg Option.isSome (map_compile_nodeAt?_replaceAt new p q p')
    rw [mem_addresses_iff, mem_addresses_iff]
    split at h <;> simp_all
  exact (pairwise_addresses _).eq_of_mem_iff (pairwise_addresses _) fun {p'} => hmem p'

theorem getElem?_batch (q : Query) (i : Nat) :
    q.batch[i]? = q.addresses[i]?.bind q.nodeAt? := by
  have h : (q.batch.map some)[i]? = (q.addresses.map q.nodeAt?)[i]? := by rw [map_some_batch]
  rw [List.getElem?_map, List.getElem?_map] at h
  cases hp : q.addresses[i]? with
  | none => simpa [hp] using h
  | some p =>
      rw [hp] at h
      obtain ⟨r, hr, hnode⟩ := Option.map_eq_some_iff.mp h
      rw [hr, Option.bind_some, ← hnode]

/-- The results of compiling the nodes, with a change at one address. -/
theorem map_compile_batch_replaceAt {q : Query} {i : Nat} {p : List Nat}
    (h : q.addresses[i]? = some p) (new : Query) :
    (q.replaceAt p new).batch.map compile = (q.batch.map compile).set i new.compile := by
  have hi : i < q.addresses.length := (List.getElem?_eq_some_iff.mp h).1
  have hnodup : q.addresses.Nodup := (pairwise_addresses q).imp fun hlt => ne_of_lt hlt
  refine List.ext_getElem? fun j => ?_
  rw [List.getElem?_set', List.getElem?_map, List.getElem?_map, getElem?_batch, getElem?_batch,
    addresses_replaceAt]
  cases hj : q.addresses[j]? with
  | none => simp
  | some p' =>
      have hiff : p' = p ↔ i = j := by
        refine ⟨?_, ?_⟩
        · rintro rfl
          exact (List.getElem?_inj hi hnodup).mp (h.trans hj.symm)
        · rintro rfl
          exact Option.some.inj (hj.symm.trans h)
      rw [Option.bind_some, Option.bind_some, map_compile_nodeAt?_replaceAt]
      simp only [hiff, Option.map_eq_map, Option.map_map]
      rfl

/-! ### Running a batch -/

section Run

variable {q : Query} {σ : Type} {client : Client σ} {s : σ}

/-- A batch of which a node is malformed reaches no client. -/
theorem getBatch_of_error {e : QueryError} (h : q.compileBatch = .error e) :
    q.getBatch client s = (.error (.failed e), s) := by
  rw [getBatch, h]
  rfl

theorem getBatch_of_ok {cs : List CompiledQuery} (h : q.compileBatch = .ok cs) :
    q.getBatch client s = Session.await (client.selectBatch cs) s := by
  rw [getBatch, h]
  rfl

end Run

/-- **A batch goes over the tree of siblings in pre-order, and its nodes are independent.**  It
compiles exactly if each of its nodes does, to the text of each node with the tables and
settings of this node; else the first node that fails decides the error, and no client is called.
A change of a node, its siblings apart, changes what this node is compiled to and nothing else. -/
theorem batch_preOrder_and_independent (q : Query) :
    q.PreOrder q.addresses q.batch ∧
      (∀ cs, q.compileBatch = .ok cs ↔ List.Forall₂ (fun r c =>
        r.toSql = .ok c.sql ∧ c.tables = r.tables.values ∧ c.settings = r.settings) q.batch cs) ∧
      ((∃ cs, q.compileBatch = .ok cs) ↔ ∀ r ∈ q.batch, ∃ c, r.compile = .ok c) ∧
      (∀ e, q.compileBatch = .error e ↔ ∃ before r after, q.batch = before ++ r :: after ∧
        (∀ b ∈ before, ∃ c, b.compile = .ok c) ∧ r.compile = .error e) ∧
      (∀ i p new, q.addresses[i]? = some p →
        (q.replaceAt p new).batch.map compile = (q.batch.map compile).set i new.compile) ∧
      ∀ (σ : Type) (client : Client σ) (s : σ),
        (∀ e, q.compileBatch = .error e → q.getBatch client s = (.error (.failed e), s)) ∧
          ∀ cs, q.compileBatch = .ok cs →
            q.getBatch client s = Session.await (client.selectBatch cs) s := by
  refine ⟨preOrder_batch q, fun cs => ?_, exists_compileList_iff, fun e => compileList_eq_error_iff,
    fun i p new h => map_compile_batch_replaceAt h new, fun σ client s => ?_⟩
  · simp only [compileBatch, compileList_eq_ok_iff, compile_eq_ok_iff]
  · exact ⟨fun e h => getBatch_of_error h, fun cs h => getBatch_of_ok h⟩

/-- A query with two siblings, each of which has a sibling. -/
def fiveReads : Query :=
  let read (name : String) : Query := build [.setFrom { table := some (.name ⟨name⟩) }]
  ((read "a").addSibling ((read "b").addSibling (read "c"))).addSibling
    ((read "d").addSibling (read "e"))

/-- The second sibling comes behind all that is below the first one, and a change of it does not
reach its own sibling. -/
theorem batch_fiveReads :
    fiveReads.addresses = [[], [0], [0, 0], [1], [1, 0]] ∧
      (fiveReads.replaceAt [1] {}).batch.map compile =
        (fiveReads.batch.map compile).set 3 (compile {}) := by
  have haddresses : fiveReads.addresses = [[], [0], [0, 0], [1], [1, 0]] := rfl
  obtain ⟨-, -, -, -, hchange, -⟩ := batch_preOrder_and_independent fiveReads
  refine ⟨haddresses, hchange 3 [1] {} ?_⟩
  rw [haddresses]
  rfl

end Query

end FluentSql
