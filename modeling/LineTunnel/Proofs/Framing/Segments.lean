import LineTunnel.Framing

/-! Streams of messages. The first terminator in a stream ends its first message, so a stream tells
the messages that it was made of, and a beginning of it tells the first of them. -/

namespace LineTunnel.Framing

def stream (f : Framing) (messages : List Bytes) : Bytes := messages.flatMap f.encode

/-- A message that is received as it was sent. -/
structure Clean (f : Framing) (message : Bytes) : Prop where
  terminator : f.terminator ∉ message
  strip : f.strip.isSome → message.getLast? ≠ f.strip

theorem stream_append (f : Framing) (xs ys : List Bytes) :
    f.stream (xs ++ ys) = f.stream xs ++ f.stream ys :=
  List.flatMap_append ..

theorem stream_singleton (f : Framing) (x : Bytes) : f.stream [x] = f.encode x :=
  List.flatMap_singleton ..

theorem stream_cons (f : Framing) (x : Bytes) (xs : List Bytes) :
    f.stream (x :: xs) = x ++ f.terminator :: f.stream xs := by
  simp [stream, encode]

theorem Clean.trim_eq {f : Framing} {message : Bytes} (h : f.Clean message) :
    f.trim message = message :=
  if_neg fun hs => h.strip hs.1 hs.2

theorem map_trim_eq {f : Framing} {messages : List Bytes} (h : ∀ m ∈ messages, f.Clean m) :
    messages.map f.trim = messages := by
  have hid : messages.map f.trim = messages.map id :=
    List.map_congr_left fun m hm => (h m hm).trim_eq
  rw [hid, List.map_id]

theorem cut_unique {t : UInt8} {x y rest rest' : Bytes} (hx : t ∉ x) (hy : t ∉ y)
    (h : x ++ t :: rest = y ++ t :: rest') : x = y ∧ rest = rest' := by
  induction x generalizing y with
  | nil =>
    cases y with
    | nil => exact ⟨rfl, (List.cons.inj h).2⟩
    | cons b y => exact absurd ((List.cons.inj h).1 ▸ List.mem_cons_self) hy
  | cons a x ih =>
    cases y with
    | nil => exact absurd ((List.cons.inj h).1 ▸ List.mem_cons_self) hx
    | cons b y =>
      obtain ⟨rfl, htail⟩ := List.cons.inj h
      obtain ⟨rfl, hrest⟩ := ih (fun hm => hx (List.mem_cons_of_mem _ hm))
        (fun hm => hy (List.mem_cons_of_mem _ hm)) htail
      exact ⟨rfl, hrest⟩

theorem prefix_of_stream {f : Framing} {xs ys : List Bytes} {rest : Bytes}
    (hx : ∀ x ∈ xs, f.terminator ∉ x) (hy : ∀ y ∈ ys, f.terminator ∉ y)
    (h : f.stream xs ++ rest <+: f.stream ys) : xs <+: ys := by
  induction xs generalizing ys with
  | nil => exact List.nil_prefix
  | cons x xs ih =>
    obtain ⟨more, hmore⟩ := h
    rw [stream_cons] at hmore
    cases ys with
    | nil => simp [stream] at hmore
    | cons y ys =>
      rw [stream_cons] at hmore
      simp only [List.append_assoc, List.cons_append] at hmore
      obtain ⟨rfl, htail⟩ := cut_unique (hx x List.mem_cons_self) (hy y List.mem_cons_self) hmore
      -- both streams have the same first message, and the rest goes on in the same way
      refine List.cons_prefix_cons.2 ⟨rfl, ih (fun x hm => hx x (List.mem_cons_of_mem _ hm))
        (fun y hm => hy y (List.mem_cons_of_mem _ hm)) ⟨more, ?_⟩⟩
      rw [List.append_assoc]
      exact htail

theorem stream_injective {f : Framing} {xs ys : List Bytes}
    (hx : ∀ x ∈ xs, f.terminator ∉ x) (hy : ∀ y ∈ ys, f.terminator ∉ y)
    (h : f.stream xs = f.stream ys) : xs = ys := by
  have hle : f.stream xs ++ [] <+: f.stream ys := ⟨[], by rw [h, List.append_nil, List.append_nil]⟩
  have hge : f.stream ys ++ [] <+: f.stream xs := ⟨[], by rw [h, List.append_nil, List.append_nil]⟩
  exact (prefix_of_stream hx hy hle).eq_of_length_le
    (prefix_of_stream hy hx hge).length_le

theorem first?_eq_some {f : Framing} {bs message : Bytes} {n : Nat}
    (h : f.first? bs = some (message, n)) :
    ∃ body rest, f.terminator ∉ body ∧ bs = body ++ f.terminator :: rest ∧
      message = f.trim body ∧ n = body.length + 1 := by
  unfold first? at h
  obtain ⟨i, hi, hcut⟩ := Option.map_eq_some_iff.1 h
  obtain ⟨hlt, hterm, hbefore⟩ := List.findIdx?_eq_some_iff_getElem.1 hi
  cases hcut
  refine ⟨bs.take i, bs.drop (i + 1), ?_, ?_, rfl, ?_⟩
  · intro hmem
    obtain ⟨j, hj, hget⟩ := List.getElem_of_mem hmem
    rw [List.length_take] at hj
    rw [List.getElem_take] at hget
    exact hbefore j (by omega) (beq_iff_eq.2 hget)
  · rw [← beq_iff_eq.1 hterm, List.getElem_cons_drop, List.take_append_drop]
  · rw [List.length_take, Nat.min_eq_left (Nat.le_of_lt hlt)]

theorem first?_eq_none {f : Framing} {bs : Bytes} (h : f.first? bs = none) :
    f.terminator ∉ bs := by
  unfold first? at h
  rw [Option.map_eq_none_iff, List.findIdx?_eq_none_iff] at h
  intro hmem
  exact nomatch (h f.terminator hmem).symm.trans (beq_self_eq_true f.terminator)

end LineTunnel.Framing
