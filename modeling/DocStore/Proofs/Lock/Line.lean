import DocStore.Lock

/-!
# The line for a lock

A lock that nobody but tickets asks for is held by one of them or by none, and the others wait for
it in order. Drawing a ticket joins the line at its end, leaving one behind closes the gap.
-/

namespace DocStore.Lock

def isWaiting (l : Lock) (n : Nat) : Bool := l.tickets[n]? == some .waiting

/-- The line as its members see it. The queue may hold more: tickets that were left behind stay
there until they are passed over. -/
structure Line (l : Lock) (holder : Option Nat) (waiting : List Nat) : Prop where
  locked : l.locked = holder.isSome
  granted : ∀ n ∈ holder, l.isGranted n = true
  queue : ∃ entries : List Nat, l.queue = entries.map .ticket ∧
    (∀ n ∈ entries, n < l.tickets.length) ∧ entries.filter l.isWaiting = waiting
  nodup : waiting.Nodup
  free : holder = none → l.queue = []

-- ---------------------------------------------------------------------------
-- Who is where
-- ---------------------------------------------------------------------------

theorem isGranted_iff {l : Lock} : l.isGranted n = true ↔ l.tickets[n]? = some .granted := by
  simp [isGranted]

theorem isWaiting_iff {l : Lock} : l.isWaiting n = true ↔ l.tickets[n]? = some .waiting := by
  simp [isWaiting]

theorem Line.isWaiting_of_mem (h : Line l holder waiting) (mem : n ∈ waiting) :
    l.isWaiting n = true := by
  obtain ⟨entries, -, -, rfl⟩ := h.queue
  exact (List.mem_filter.mp mem).2

theorem Line.not_isGranted (h : Line l holder waiting) (mem : n ∈ waiting) :
    l.isGranted n = false := by
  have := isWaiting_iff.mp (h.isWaiting_of_mem mem)
  simp [isGranted, this]

theorem Line.waiting_eq_nil (h : Line l none waiting) : waiting = [] := by
  obtain ⟨entries, he, -, rfl⟩ := h.queue
  rw [h.free rfl] at he
  obtain rfl := List.map_eq_nil_iff.mp he.symm
  rfl

/-- A lock without holder and queue, whatever tickets were drawn before. -/
theorem line_free {l : Lock} (unlocked : l.locked = false) (empty : l.queue = []) :
    Line l none [] where
  locked := unlocked
  granted := by simp
  queue := ⟨[], by simpa using empty, by simp, rfl⟩
  nodup := .nil
  free _ := empty

-- ---------------------------------------------------------------------------
-- Joining
-- ---------------------------------------------------------------------------

theorem Line.drawTicket_free (h : Line l none waiting) :
    Line l.drawTicket.1 (some l.drawTicket.2) [] := by
  have unlocked : l.locked = false := by simpa using h.locked
  refine ⟨by simp [drawTicket, unlocked], ?_, ⟨[], ?_, by simp, rfl⟩, .nil, by simp⟩
  · simp [drawTicket, unlocked, isGranted]
  · simpa [drawTicket, unlocked] using h.free rfl

theorem Line.drawTicket_held (h : Line l (some t) waiting) :
    Line l.drawTicket.1 (some t) (waiting ++ [l.drawTicket.2]) := by
  have locked : l.locked = true := by simpa using h.locked
  have ht := isGranted_iff.mp (h.granted t rfl)
  obtain ⟨entries, he, bound, rfl⟩ := h.queue
  have same : ∀ n < l.tickets.length,
      isWaiting { l with tickets := l.tickets ++ [.waiting] } n = l.isWaiting n := by
    intro n hn
    simp [isWaiting, List.getElem?_append_left hn]
  simp only [drawTicket, locked, if_true]
  refine ⟨rfl, ?_, ⟨entries ++ [l.tickets.length], ?_, ?_, ?_⟩, ?_, by simp⟩
  · rintro n ⟨⟩
    have hlt : t < l.tickets.length := (List.getElem?_eq_some_iff.mp ht).1
    simp [isGranted, List.getElem?_append_left hlt, ht]
  · simp [he]
  · intro n hn
    rcases List.mem_append.mp hn with hn | hn
    · have := bound n hn
      simp only [List.length_append, List.length_singleton]
      omega
    · simp_all
  · rw [List.filter_append]
    congr 1
    · exact List.filter_congr fun n hn => same n (bound n hn)
    · simp [isWaiting]
  · refine List.nodup_append.mpr ⟨h.nodup, by simp, ?_⟩
    rintro a ha b hb rfl
    obtain rfl := List.mem_singleton.mp hb
    exact absurd (bound _ (List.mem_filter.mp ha).1) (Nat.lt_irrefl _)

-- ---------------------------------------------------------------------------
-- Leaving
-- ---------------------------------------------------------------------------

theorem filter_isWaiting_set {tickets : List TicketState} (out : state ≠ .waiting)
    (entries : List Nat) :
    entries.filter (isWaiting ⟨b, q, tickets.set t state⟩)
      = (entries.filter (isWaiting ⟨b', q', tickets⟩)).filter (· != t) := by
  rw [List.filter_filter]
  refine List.filter_congr fun n _ => ?_
  simp only [isWaiting, List.getElem?_set]
  by_cases hn : t = n
  · subst hn
    by_cases hl : t < tickets.length <;> simp [hl, out]
  · simp [hn, Ne.symm hn]

/-- The lock goes to the oldest ticket that still waits; it is free if there is none. -/
theorem passOn_tickets (l : Lock) (entries : List Nat) :
    (passOn l.tickets (entries.map .ticket) = ({ tickets := l.tickets }, none) ∧
      entries.filter l.isWaiting = []) ∨
    ∃ n rest, passOn l.tickets (entries.map .ticket) =
        (⟨true, rest.map .ticket, l.tickets.set n .granted⟩, none) ∧
      entries.filter l.isWaiting = n :: rest.filter l.isWaiting ∧ rest ⊆ entries ∧ n ∈ entries := by
  induction entries with
  | nil => exact .inl ⟨rfl, rfl⟩
  | cons n rest ih =>
    cases hn : l.isWaiting n with
    | true =>
      refine .inr ⟨n, rest, ?_, by simp [hn], by simp, by simp⟩
      simp [passOn, isWaiting_iff.mp hn]
    | false =>
      have skip : passOn l.tickets ((n :: rest).map .ticket) =
          passOn l.tickets (rest.map .ticket) := by
        rw [List.map_cons, passOn, if_neg (by simpa [isWaiting] using hn)]
      rw [skip, List.filter_cons_of_neg (by simp [hn])]
      rcases ih with ih | ⟨k, more, hpass, hfilter, sub, mem⟩
      · exact .inl ih
      · exact .inr ⟨k, more, hpass, hfilter, List.subset_cons_of_subset _ sub,
          List.mem_cons_of_mem _ mem⟩

theorem unlock_of_passOn {l : Lock} (h : passOn l.tickets l.queue = (next, none)) :
    l.unlock = (next, []) := by
  rw [unlock, run]
  split
  · rename_i hp
    rw [h] at hp
    cases hp
    simp [run]
  · rename_i hp
    simp [h] at hp

theorem Line.abandon_waiting (h : Line l holder waiting) (mem : n ∈ waiting) :
    Line (l.abandon n).1 holder (waiting.erase n) := by
  obtain ⟨entries, he, bound, hw⟩ := h.queue
  simp only [abandon, h.not_isGranted mem, Bool.false_eq_true, if_false]
  refine ⟨h.locked, ?_, ⟨entries, he, by simpa using bound, ?_⟩, h.nodup.erase n, h.free⟩
  · intro t ht
    have granted := h.granted t ht
    have ne : n ≠ t := by
      rintro rfl
      simp [h.not_isGranted mem] at granted
    simpa [isGranted, List.getElem?_set, ne] using granted
  · rw [filter_isWaiting_set (by simp), h.nodup.erase_eq_filter]
    exact congrArg _ hw

theorem Line.abandon_holder (h : Line l (some t) waiting) :
    Line (l.abandon t).1 waiting.head? waiting.tail := by
  obtain ⟨entries, he, bound, hw⟩ := h.queue
  have granted := h.granted t rfl
  have notMem : t ∉ waiting := fun mem => by simp [h.not_isGranted mem] at granted
  have left :
      entries.filter (isWaiting ⟨l.locked, l.queue, l.tickets.set t .abandoned⟩) = waiting := by
    rw [filter_isWaiting_set (by simp)]
    refine (congrArg _ hw).trans (List.filter_eq_self.mpr fun n hn => ?_)
    simpa using fun (same : n = t) => notMem (same ▸ hn)
  simp only [abandon, granted, if_true]
  rcases passOn_tickets ⟨l.locked, l.queue, l.tickets.set t .abandoned⟩ entries with
    ⟨hpass, hnil⟩ | ⟨n, rest, hpass, hcons, sub, mem⟩
  · rw [unlock_of_passOn (by rw [← hpass, he])]
    obtain rfl := left.symm.trans hnil
    exact line_free rfl rfl
  · rw [unlock_of_passOn (by rw [← hpass, he])]
    obtain rfl := left.symm.trans hcons
    have nodup := List.nodup_cons.mp h.nodup
    refine ⟨rfl, ?_, ⟨rest, rfl, ?_, ?_⟩, nodup.2, by simp⟩
    · rintro k ⟨⟩
      simpa [isGranted, List.getElem?_set] using bound _ mem
    · simpa using fun k hk => bound k (sub hk)
    · rw [filter_isWaiting_set (by simp)]
      refine List.filter_eq_self.mpr fun k hk => ?_
      simpa using fun (same : k = n) => nodup.1 (same ▸ hk)

end DocStore.Lock
