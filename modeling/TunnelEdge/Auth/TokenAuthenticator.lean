import TunnelEdge.Lib.GoMap
import TunnelEdge.Lib.SharedSlice
/-!
# Tokens in memory

`TokenAuthenticator` (`internal/auth/auth.go`): a slice of bcrypt hashes with the agent
of each. Removing an agent filters the slice in place. An entry may carry a fingerprint
with which most tokens are told apart before bcrypt has to run, but `newEntry`, which
makes all entries, has none to give.

bcrypt and the HMAC of the fingerprint are parameters.
-/

namespace TunnelEdge.Auth

open GoLib

structure TokenEntry where
  bcryptHash : String
  fingerprint : String
  agentID : String
deriving DecidableEq, Repr

/-- What `Authenticate` computes with. -/
structure Crypto where
  /-- `bcrypt.CompareHashAndPassword` returns nil. -/
  compare : (hash token : String) → Bool
  tokenFingerprint : (hash token : String) → String

/-- The errors of `Authenticate`, all with code `UNAUTHORIZED`. -/
inductive TokenError
  | emptyToken
  | invalidToken
deriving DecidableEq, Repr

def newEntry (bcryptHash agentID : String) : TokenEntry := { bcryptHash, fingerprint := "", agentID }

structure TokenAuthenticator where
  entries : Slice TokenEntry := {}

namespace TokenAuthenticator

def addHashedToken (a : TokenAuthenticator) (hash agentID : String) : TokenAuthenticator :=
  { entries := a.entries.append (newEntry hash agentID) }

def removeHashedToken (a : TokenAuthenticator) (agentID : String) : TokenAuthenticator :=
  { entries := a.entries.filterInPlace fun e => e.agentID ≠ agentID }

/-- `NewHashedTokenAuthenticator`, for the pairs of the map in the order in which they are ranged over. -/
def new (pairs : List (String × String)) : TokenAuthenticator :=
  pairs.foldl (fun a p => a.addHashedToken p.1 p.2) {}

def search (c : Crypto) (token : String) : List TokenEntry → Except TokenError String
  | [] => .error .invalidToken
  | e :: rest =>
    -- an entry with another fingerprint is skipped
    if e.fingerprint ≠ "" ∧ c.tokenFingerprint e.bcryptHash token ≠ e.fingerprint then search c token rest
    else if c.compare e.bcryptHash token then .ok e.agentID
    else search c token rest

def authenticate (c : Crypto) (a : TokenAuthenticator) (token : String) : Except TokenError String :=
  if token = "" then .error .emptyToken else search c token a.entries.toList

end TokenAuthenticator

/-! ## Histories -/

inductive TokenOp
  | add (hash agentID : String)
  | remove (agentID : String)
deriving DecidableEq, Repr

def TokenOp.apply (a : TokenAuthenticator) : TokenOp → TokenAuthenticator
  | .add hash agentID => a.addHashedToken hash agentID
  | .remove agentID => a.removeHashedToken agentID

def history (pairs : List (String × String)) (ops : List TokenOp) : TokenAuthenticator :=
  ops.foldl TokenOp.apply (.new pairs)

/-- What an operation does to the list of entries. -/
def TokenOp.onEntries (l : List TokenEntry) : TokenOp → List TokenEntry
  | .add hash agentID => l ++ [newEntry hash agentID]
  | .remove agentID => l.filter fun e => e.agentID ≠ agentID

theorem toList_apply (a : TokenAuthenticator) (op : TokenOp) :
    (op.apply a).entries.toList = op.onEntries a.entries.toList := by
  cases op with
  | add hash agentID => exact Slice.toList_append ..
  | remove agentID => exact Slice.toList_filterInPlace ..

theorem toList_foldl (a : TokenAuthenticator) (ops : List TokenOp) :
    (ops.foldl TokenOp.apply a).entries.toList = ops.foldl TokenOp.onEntries a.entries.toList := by
  induction ops generalizing a with
  | nil => rfl
  | cons op ops ih => rw [List.foldl_cons, ih, toList_apply, List.foldl_cons]

theorem toList_new (pairs : List (String × String)) :
    (TokenAuthenticator.new pairs).entries.toList = pairs.map fun p => newEntry p.1 p.2 := by
  induction pairs using List.reverseRecOn with
  | nil => rfl
  | append_singleton pairs p ih =>
    have hadd : TokenAuthenticator.new (pairs ++ [p]) = (TokenAuthenticator.new pairs).addHashedToken p.1 p.2 := by
      simp [TokenAuthenticator.new]
    rw [hadd, List.map_append, ← ih]
    exact Slice.toList_append ..

/-- The slice, whatever happened to its array, holds what the operations make of the list. -/
theorem toList_history (pairs : List (String × String)) (ops : List TokenOp) :
    (history pairs ops).entries.toList = ops.foldl TokenOp.onEntries (pairs.map fun p => newEntry p.1 p.2) := by
  unfold history
  rw [toList_foldl, toList_new]

/-- A pair that was there at first or was added, with no removal of its agent afterwards. -/
def Present (hashes : GoMap String String) (ops : List TokenOp) (hash agentID : String) : Prop :=
  (hashes.lookup hash = some agentID ∧ .remove agentID ∉ ops) ∨
    ∃ pre post, ops = pre ++ .add hash agentID :: post ∧ .remove agentID ∉ post

section Histories

variable {hashes : GoMap String String} {pairs : List (String × String)} {ops : List TokenOp}

theorem snoc_eq_iff {op x : TokenOp} {pre post : List TokenOp} :
    ops ++ [x] = pre ++ op :: post ↔
      (post = [] ∧ pre = ops ∧ op = x) ∨ ∃ post', post = post' ++ [x] ∧ ops = pre ++ op :: post' := by
  constructor
  · intro h
    rcases List.eq_nil_or_concat' post with rfl | ⟨post', y, rfl⟩
    · obtain ⟨hops, hx⟩ := List.append_inj' h rfl
      cases hx
      exact .inl ⟨rfl, hops.symm, rfl⟩
    · rw [← List.cons_append, ← List.append_assoc] at h
      obtain ⟨hops, hx⟩ := List.append_inj' h rfl
      cases hx
      exact .inr ⟨post', rfl, hops⟩
  · rintro (⟨rfl, rfl, rfl⟩ | ⟨post', rfl, rfl⟩)
    · rfl
    · rw [List.append_assoc, List.cons_append]

theorem present_add (hash agentID h a : String) :
    Present hashes (ops ++ [.add hash agentID]) h a ↔ Present hashes ops h a ∨ (h = hash ∧ a = agentID) := by
  unfold Present
  constructor
  · rintro (⟨hl, hr⟩ | ⟨pre, post, he, hr⟩)
    · exact .inl (.inl ⟨hl, fun hm => hr (List.mem_append_left _ hm)⟩)
    · rcases snoc_eq_iff.1 he with ⟨-, -, hop⟩ | ⟨post', rfl, hops⟩
      · cases hop
        exact .inr ⟨rfl, rfl⟩
      · exact .inl (.inr ⟨pre, post', hops, fun hm => hr (List.mem_append_left _ hm)⟩)
  · rintro ((⟨hl, hr⟩ | ⟨pre, post, he, hr⟩) | ⟨rfl, rfl⟩)
    · exact .inl ⟨hl, by simpa using hr⟩
    · exact .inr ⟨pre, post ++ [.add hash agentID], snoc_eq_iff.2 (.inr ⟨post, rfl, he⟩), by simpa using hr⟩
    · exact .inr ⟨ops, [], rfl, List.not_mem_nil⟩

theorem present_remove (agentID h a : String) :
    Present hashes (ops ++ [.remove agentID]) h a ↔ Present hashes ops h a ∧ a ≠ agentID := by
  unfold Present
  constructor
  · rintro (⟨hl, hr⟩ | ⟨pre, post, he, hr⟩)
    · simp only [List.mem_append, List.mem_singleton, TokenOp.remove.injEq, not_or] at hr
      exact ⟨.inl ⟨hl, hr.1⟩, hr.2⟩
    · rcases snoc_eq_iff.1 he with ⟨-, -, hop⟩ | ⟨post', rfl, hops⟩
      · cases hop
      · simp only [List.mem_append, List.mem_singleton, TokenOp.remove.injEq, not_or] at hr
        exact ⟨.inr ⟨pre, post', hops, hr.1⟩, hr.2⟩
  · rintro ⟨⟨hl, hr⟩ | ⟨pre, post, he, hr⟩, hne⟩
    · exact .inl ⟨hl, by simp [hr, hne]⟩
    · exact .inr ⟨pre, post ++ [.remove agentID], snoc_eq_iff.2 (.inr ⟨post, rfl, he⟩), by simp [hr, hne]⟩

theorem mem_history_iff (hp : pairs.Perm (hashes.entries.map fun e => (e.1, e.2))) (e : TokenEntry) :
    e ∈ (history pairs ops).entries.toList ↔ ∃ hash agentID, e = newEntry hash agentID ∧
      Present hashes ops hash agentID := by
  rw [toList_history]
  induction ops using List.reverseRecOn with
  | nil =>
    have hpair : ∀ hash agentID, (hash, agentID) ∈ pairs ↔ hashes.lookup hash = some agentID := by
      intro hash agentID
      rw [hp.mem_iff, ← GoMap.mem_entries_iff]
      simp
    simp only [List.foldl_nil, List.mem_map, Prod.exists, hpair, Present]
    constructor
    · rintro ⟨hash, agentID, hl, rfl⟩
      exact ⟨hash, agentID, rfl, .inl ⟨hl, List.not_mem_nil⟩⟩
    · rintro ⟨hash, agentID, rfl, ⟨hl, -⟩ | ⟨pre, post, he, -⟩⟩
      · exact ⟨hash, agentID, hl, rfl⟩
      · simp at he
  | append_singleton ops op ih =>
    rw [List.foldl_append, List.foldl_cons, List.foldl_nil]
    cases op with
    | add hash agentID =>
      simp only [TokenOp.onEntries, List.mem_append, List.mem_singleton, ih, present_add]
      constructor
      · rintro (⟨h, a, rfl, hpres⟩ | rfl)
        · exact ⟨h, a, rfl, .inl hpres⟩
        · exact ⟨hash, agentID, rfl, .inr ⟨rfl, rfl⟩⟩
      · rintro ⟨h, a, rfl, hpres | ⟨rfl, rfl⟩⟩
        · exact .inl ⟨h, a, rfl, hpres⟩
        · exact .inr rfl
    | remove agentID =>
      simp only [TokenOp.onEntries, List.mem_filter, decide_eq_true_eq, ih, present_remove]
      constructor
      · rintro ⟨⟨h, a, rfl, hpres⟩, hne⟩
        exact ⟨h, a, rfl, hpres, hne⟩
      · rintro ⟨h, a, rfl, hpres, hne⟩
        exact ⟨⟨h, a, rfl, hpres⟩, hne⟩

end Histories

/-! ## Searching -/

section Search

variable {c : Crypto} {token : String}

def hits (c : Crypto) (token : String) (e : TokenEntry) : Bool :=
  (e.fingerprint = "" || c.tokenFingerprint e.bcryptHash token = e.fingerprint) && c.compare e.bcryptHash token

theorem search_eq (l : List TokenEntry) :
    TokenAuthenticator.search c token l =
      match (l.filter (hits c token)).head? with
      | some e => .ok e.agentID
      | none => .error .invalidToken := by
  induction l with
  | nil => rfl
  | cons e l ih =>
    unfold TokenAuthenticator.search
    by_cases hf : e.fingerprint ≠ "" ∧ c.tokenFingerprint e.bcryptHash token ≠ e.fingerprint
    · rw [if_pos hf, List.filter_cons_of_neg (by simp [hits, hf.1, hf.2]), ih]
    · have hf' : e.fingerprint = "" ∨ c.tokenFingerprint e.bcryptHash token = e.fingerprint := by
        by_contra h
        exact hf (not_or.1 h)
      rw [if_neg hf]
      split
      · rename_i hc
        rw [List.filter_cons_of_pos (by simpa [hits, hc] using hf')]
        rfl
      · rename_i hc
        rw [List.filter_cons_of_neg (by simp [hits, hc]), ih]

theorem hits_newEntry (hash agentID : String) : hits c token (newEntry hash agentID) = c.compare hash token := by
  simp [hits, newEntry]

theorem filter_onEntries_congr {l l' : List TokenEntry} (h : l.filter (hits c token) = l'.filter (hits c token))
    (ops : List TokenOp) :
    (ops.foldl TokenOp.onEntries l).filter (hits c token) = (ops.foldl TokenOp.onEntries l').filter (hits c token) := by
  induction ops generalizing l l' with
  | nil => exact h
  | cons op ops ih =>
    refine ih ?_
    cases op with
    | add hash agentID => simp only [TokenOp.onEntries, List.filter_append, h]
    | remove agentID =>
      simp only [TokenOp.onEntries]
      rw [List.filter_comm, h, List.filter_comm]

end Search

/-- A token is accepted exactly when a pair that matches it is present, for an agent of
such a pair; and an agent none of whose pairs match the token makes no difference to it,
whenever it is removed. -/
theorem authenticate_follows_history (c : Crypto) (hashes : GoMap String String) (pairs : List (String × String))
    (hp : pairs.Perm (hashes.entries.map fun e => (e.1, e.2))) (ops : List TokenOp) (token : String)
    (hne : token ≠ "") :
    ((∃ agentID, (history pairs ops).authenticate c token = .ok agentID) ↔
      ∃ hash agentID, c.compare hash token = true ∧ Present hashes ops hash agentID) ∧
    (∀ agentID, (history pairs ops).authenticate c token = .ok agentID →
      ∃ hash, c.compare hash token = true ∧ Present hashes ops hash agentID) ∧
    ∀ agentID after, (∀ hash, Present hashes ops hash agentID → c.compare hash token = false) →
      (history pairs (ops ++ .remove agentID :: after)).authenticate c token =
        (history pairs (ops ++ after)).authenticate c token := by
  have hauth : ∀ ops, (history pairs ops).authenticate c token =
      TokenAuthenticator.search c token (history pairs ops).entries.toList := fun ops => if_neg hne
  -- the first entry that matches is one of a pair that is present
  have hfound : ∀ agentID, (history pairs ops).authenticate c token = .ok agentID →
      ∃ hash, c.compare hash token = true ∧ Present hashes ops hash agentID := by
    intro agentID h
    rw [hauth, search_eq] at h
    split at h
    · rename_i e he
      cases h
      obtain ⟨hmem, hhit⟩ := List.mem_filter.1 (List.mem_of_mem_head? he)
      obtain ⟨hash, agentID, rfl, hpres⟩ := (mem_history_iff hp e).1 hmem
      rw [hits_newEntry] at hhit
      exact ⟨hash, hhit, hpres⟩
    · cases h
  refine ⟨⟨?_, ?_⟩, hfound, fun agentID after hother => ?_⟩
  · rintro ⟨agentID, h⟩
    obtain ⟨hash, hc, hpres⟩ := hfound agentID h
    exact ⟨hash, agentID, hc, hpres⟩
  · rintro ⟨hash, agentID, hc, hpres⟩
    have hmem := (mem_history_iff hp _).2 ⟨hash, agentID, rfl, hpres⟩
    have hfilter := List.mem_filter.2 ⟨hmem, (hits_newEntry hash agentID).trans hc⟩
    rw [hauth, search_eq]
    cases hhead : ((history pairs ops).entries.toList.filter (hits c token)).head? with
    | none =>
      rw [List.head?_eq_none_iff.1 hhead] at hfilter
      cases hfilter
    | some e => exact ⟨e.agentID, rfl⟩
  · -- the entries that the removal takes away are not among those that match
    have hkeep : ((TokenOp.remove agentID).onEntries (history pairs ops).entries.toList).filter (hits c token) =
        (history pairs ops).entries.toList.filter (hits c token) := by
      simp only [TokenOp.onEntries, List.filter_filter]
      refine List.filter_congr fun e he => ?_
      obtain ⟨hash, a, rfl, hpres⟩ := (mem_history_iff hp e).1 he
      rw [hits_newEntry]
      by_cases ha : a = agentID
      · rw [hother hash (ha ▸ hpres), Bool.false_and]
      · simp [newEntry, ha]
    rw [hauth, hauth, search_eq, search_eq, toList_history, toList_history, List.foldl_append, List.foldl_append,
      List.foldl_cons, ← toList_history, filter_onEntries_congr hkeep]

/-- A hash that shows its token. -/
def plain : Crypto := { compare := fun hash token => hash = "#" ++ token, tokenFingerprint := fun hash _ => hash }

theorem authenticate_added :
    ∃ agentID, (history [("#t1", "a1")] [.add "#t2" "a2", .remove "a1"]).authenticate plain "t2" = .ok agentID :=
  (authenticate_follows_history plain ((∅ : GoMap String String).insert "#t1" "a1") [("#t1", "a1")] (.refl _)
    [.add "#t2" "a2", .remove "a1"] "t2" (by decide)).1.2
    ⟨"#t2", "a2", by decide, .inr ⟨[], [.remove "a1"], rfl, by decide⟩⟩

end TunnelEdge.Auth
