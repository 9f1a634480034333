import Mathlib.Data.List.Nodup

/-!
# Socket handles, socket objects and the socket map

`SOCKET` is winsock's `UINT_PTR`, 64 bits wide on the 64-bit targets. A
`UdpSocketWinRT` is seen by the manager through its identity and its handle
`GetFd()`. The worker's `std::map<SOCKET, UdpSocketWinRT*>` is a list of
entries in strictly increasing key order that carries its own sortedness, so
that every map has unique keys and is iterated in key order, as `std::map` is.
-/

namespace WebRtcWinRT.UdpSocket

/-- winsock `SOCKET`, that is `UINT_PTR` on a 64-bit target. -/
abbrev SOCKET := UInt64

/-- `INVALID_SOCKET`, that is `(SOCKET)(~0)`. -/
def INVALID_SOCKET : SOCKET := ~~~0

/-- Two handles are equal when their values are. -/
theorem socket_eq_iff {a b : SOCKET} : a = b ↔ a.toNat = b.toNat :=
  ⟨congrArg _, UInt64.toNat.inj⟩

/-- Handles are ordered by their values. -/
theorem socket_lt_iff {a b : SOCKET} : a < b ↔ a.toNat < b.toNat := Iff.rfl

/-- A handle below `2 ^ 32` survives the round trip through `unsigned int`. -/
theorem toUInt32_toUInt64_of_lt {a : SOCKET} (h : a.toNat < 4294967296) : a.toUInt32.toUInt64 = a :=
  UInt64.toNat.inj (Nat.mod_eq_of_lt h)

/-- Below `2 ^ 32`, comparing handles as `unsigned int` is comparing them. -/
theorem toUInt32_eq_iff {a b : SOCKET} (ha : a.toNat < 4294967296) (hb : b.toNat < 4294967296) :
    a.toUInt32 = b.toUInt32 ↔ a = b := by
  refine ⟨fun h => UInt64.toNat.inj ?_, fun h => h ▸ rfl⟩
  have : a.toNat % 4294967296 = b.toNat % 4294967296 := congrArg UInt32.toNat h
  rwa [Nat.mod_eq_of_lt ha, Nat.mod_eq_of_lt hb] at this

/-- A socket object handed to the manager: its identity and its handle. -/
structure UdpSocketWinRT where
  /-- Identity of the object, its address in the process. -/
  id : Nat
  /-- The handle that `GetFd()` returns. -/
  fd : SOCKET
  deriving DecidableEq, Repr

/-- The calls the manager makes on a socket object. -/
inductive SocketEvent
  /-- `ReadyForDeletion()`, made just before a removed socket is deleted. -/
  | readyForDeletion (s : UdpSocketWinRT)
  /-- `delete`, the end of the object. -/
  | delete (s : UdpSocketWinRT)
  /-- `HasIncoming()`, made when `select` reports the handle readable. -/
  | hasIncoming (s : UdpSocketWinRT)
  deriving DecidableEq, Repr

/-- Entries of a `std::map<SOCKET, UdpSocketWinRT*>`, in iteration order. -/
abbrev Entries := List (SOCKET × UdpSocketWinRT)

/-- `m[k] = s` on a sorted entry list: insert in key order, or overwrite. -/
def insertEntry (k : SOCKET) (s : UdpSocketWinRT) : Entries → Entries
  | [] => [(k, s)]
  | e :: es =>
    if k < e.1 then (k, s) :: e :: es
    else if k = e.1 then (k, s) :: es
    else e :: insertEntry k s es

/-- Keys strictly increase along the entries. -/
def Sorted (es : Entries) : Prop := es.Pairwise (fun a b => a.1 < b.1)

/-- In a sorted map no later key equals the first. -/
theorem Sorted.key_ne {e : SOCKET × UdpSocketWinRT} {es : Entries} (h : Sorted (e :: es))
    {x : SOCKET × UdpSocketWinRT} (hx : x ∈ es) : x.1 ≠ e.1 :=
  fun he => UInt64.lt_irrefl e.1 (he ▸ List.rel_of_pairwise_cons h hx)

/-- A sorted map has no repeated entry. -/
theorem Sorted.nodup {es : Entries} (h : Sorted es) : es.Nodup := by
  unfold Sorted at h
  exact h.imp fun hlt he => by subst he; exact UInt64.lt_irrefl _ hlt

/-- A sorted map has no repeated key. -/
theorem Sorted.keys_nodup {es : Entries} (h : Sorted es) : (es.map (·.1)).Nodup := by
  unfold Sorted at h
  exact List.pairwise_map.mpr
    (h.imp fun {a b} (hlt : a.1 < b.1) (he : a.1 = b.1) => UInt64.lt_irrefl _ (he ▸ hlt))

/-- Inserting into a sorted map replaces the entry under the key, if any. -/
theorem mem_insertEntry {k : SOCKET} {s : UdpSocketWinRT} {es : Entries} (h : Sorted es)
    {x : SOCKET × UdpSocketWinRT} :
    x ∈ insertEntry k s es ↔ x = (k, s) ∨ (x ∈ es ∧ x.1 ≠ k) := by
  induction es with
  | nil => simp [insertEntry]
  | cons e es ih =>
    have hes : Sorted es := h.of_cons
    have hgt : ∀ y ∈ es, e.1 < y.1 := fun y hy => List.rel_of_pairwise_cons h hy
    simp only [insertEntry]
    split_ifs with hlt heq
    · have hne : ∀ y ∈ e :: es, y.1 ≠ k := by
        intro y hy hk
        rcases List.mem_cons.mp hy with rfl | hy
        · exact UInt64.lt_irrefl _ (hk ▸ hlt)
        · exact UInt64.lt_irrefl k (UInt64.lt_trans hlt (hk ▸ hgt y hy))
      rw [List.mem_cons]
      exact ⟨fun h => h.imp_right fun hx => ⟨hx, hne x hx⟩, fun h => h.imp_right And.left⟩
    · subst heq
      simp only [List.mem_cons]
      constructor
      · rintro (rfl | hx)
        · exact .inl rfl
        · exact .inr ⟨.inr hx, h.key_ne hx⟩
      · rintro (rfl | ⟨rfl | hx, hne⟩)
        · exact .inl rfl
        · exact absurd rfl hne
        · exact .inr hx
    · simp only [List.mem_cons, ih hes]
      constructor
      · rintro (rfl | rfl | ⟨hx, hne⟩)
        · exact .inr ⟨.inl rfl, fun hk => heq hk.symm⟩
        · exact .inl rfl
        · exact .inr ⟨.inr hx, hne⟩
      · rintro (rfl | ⟨rfl | hx, hne⟩)
        · exact .inr (.inl rfl)
        · exact .inl rfl
        · exact .inr (.inr ⟨hx, hne⟩)

/-- Inserting keeps the map sorted. -/
theorem insertEntry_sorted (k : SOCKET) (s : UdpSocketWinRT) {es : Entries} (h : Sorted es) :
    Sorted (insertEntry k s es) := by
  induction es with
  | nil => simp [insertEntry, Sorted]
  | cons e es ih =>
    have hes : Sorted es := h.of_cons
    have hgt : ∀ y ∈ es, e.1 < y.1 := fun y hy => List.rel_of_pairwise_cons h hy
    simp only [insertEntry]
    split_ifs with hlt heq
    · exact List.Pairwise.cons (fun y hy => by
        rcases List.mem_cons.mp hy with rfl | hy
        · exact hlt
        · exact UInt64.lt_trans hlt (hgt y hy)) h
    · subst heq
      exact List.Pairwise.cons hgt hes
    · have hek : e.1 < k := by
        rw [socket_lt_iff] at hlt ⊢
        rw [socket_eq_iff] at heq
        omega
      refine List.Pairwise.cons (fun y hy => ?_) (ih hes)
      rcases (mem_insertEntry hes).mp hy with rfl | ⟨hy, -⟩
      · exact hek
      · exact hgt y hy

/-- Inserting a new key adds one entry. -/
theorem length_insertEntry (k : SOCKET) (s : UdpSocketWinRT) (es : Entries)
    (hk : ∀ x ∈ es, x.1 ≠ k) : (insertEntry k s es).length = es.length + 1 := by
  induction es with
  | nil => rfl
  | cons e es ih =>
    have hne : k ≠ e.1 := fun h => hk e (.head _) h.symm
    simp only [insertEntry, hne, if_false]
    split_ifs
    · rfl
    · simp [ih fun x hx => hk x (.tail _ hx)]

/-- In a sorted map an entry is determined by its key. -/
theorem Sorted.eq_of_key_eq {es : Entries} (h : Sorted es) {x y : SOCKET × UdpSocketWinRT}
    (hx : x ∈ es) (hy : y ∈ es) (hk : x.1 = y.1) : x = y := by
  induction es with
  | nil => simp at hx
  | cons e es ih =>
    rcases List.mem_cons.mp hx with rfl | hx' <;> rcases List.mem_cons.mp hy with rfl | hy'
    · rfl
    · exact absurd hk.symm (h.key_ne hy')
    · exact absurd hk (h.key_ne hx')
    · exact ih h.of_cons hx' hy'

/-- `std::map<SOCKET, UdpSocketWinRT*>`: its entries and their key order. -/
structure SocketMap where
  /-- The entries `(key, socket)`, in iteration order. -/
  entries : Entries
  /-- Keys strictly increase along the entries. -/
  sorted : Sorted entries

namespace SocketMap

/-- The empty map. -/
def empty : SocketMap := ⟨[], List.Pairwise.nil⟩

/-- `size()`. -/
def size (m : SocketMap) : Nat := m.entries.length

/-- The sockets stored in the map, in key order. -/
def values (m : SocketMap) : List UdpSocketWinRT := m.entries.map (·.2)

/-- `find(k)`: the socket stored under `k`, if any. -/
def find (m : SocketMap) (k : SOCKET) : Option UdpSocketWinRT :=
  (m.entries.find? (·.1 = k)).map (·.2)

/-- `erase(k)`. -/
def erase (m : SocketMap) (k : SOCKET) : SocketMap :=
  ⟨m.entries.filter (·.1 ≠ k), m.sorted.filter _⟩

/-- `m[k] = s`. -/
def insert (m : SocketMap) (k : SOCKET) (s : UdpSocketWinRT) : SocketMap :=
  ⟨insertEntry k s m.entries, insertEntry_sorted k s m.sorted⟩

/-- The empty map has no entries. -/
@[simp] theorem empty_entries : empty.entries = [] := rfl

/-- `insert` replaces the entry under the key, if any. -/
theorem mem_insert {m : SocketMap} {k : SOCKET} {s : UdpSocketWinRT}
    {x : SOCKET × UdpSocketWinRT} :
    x ∈ (m.insert k s).entries ↔ x = (k, s) ∨ (x ∈ m.entries ∧ x.1 ≠ k) :=
  mem_insertEntry m.sorted

/-- `erase` removes exactly the entry under the key. -/
@[simp] theorem mem_erase {m : SocketMap} {k : SOCKET} {x : SOCKET × UdpSocketWinRT} :
    x ∈ (m.erase k).entries ↔ x ∈ m.entries ∧ x.1 ≠ k := by
  simp [erase]

/-- `find` answers the socket stored under the key. -/
theorem find_eq_some_iff {m : SocketMap} {k : SOCKET} {s : UdpSocketWinRT} :
    m.find k = some s ↔ (k, s) ∈ m.entries := by
  constructor
  · intro h
    obtain ⟨e, he, rfl⟩ := Option.map_eq_some'.mp h
    obtain ⟨hk, hmem⟩ := List.find?_some he, List.mem_of_find?_eq_some he
    simp only [decide_eq_true_eq] at hk
    subst hk
    exact hmem
  · intro h
    cases he : m.entries.find? (·.1 = k) with
    | none => exact absurd ((List.find?_eq_none.mp he) _ h) (by simp)
    | some e =>
      have hk : e.1 = k := by simpa using List.find?_some he
      have := m.sorted.eq_of_key_eq (List.mem_of_find?_eq_some he) h hk
      simp [find, he, this]

/-- `find` answers nothing exactly when no socket is stored under the key. -/
theorem find_eq_none_iff {m : SocketMap} {k : SOCKET} :
    m.find k = none ↔ ∀ s, (k, s) ∉ m.entries := by
  simp only [find, Option.map_eq_none', List.find?_eq_none, decide_eq_true_eq]
  exact ⟨fun h s hs => h _ hs rfl, fun h x hx hk => h x.2 (hk ▸ hx)⟩

/-- Inserting under a new key grows the size by one. -/
theorem size_insert {m : SocketMap} {k : SOCKET} (s : UdpSocketWinRT)
    (hk : m.find k = none) : (m.insert k s).size = m.size + 1 :=
  length_insertEntry k s m.entries fun x hx he =>
    find_eq_none_iff.mp hk x.2 (he ▸ hx)

end SocketMap

end WebRtcWinRT.UdpSocket
