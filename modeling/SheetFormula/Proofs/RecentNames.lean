import Mathlib.Data.Finset.Card
import Mathlib.Data.List.Induction
import SheetFormula.Names

/-!
# What a name cache keeps

The cache keeps the names that were asked for last, so what it holds and whom it asks can be told from the
questions alone:

* **`NameKey.recent`** — the keys of some questions, each once, the most recent first; `NameKey.recent_concat`
  — what one more question does to them;
* **`NameCache.keys_cached`** — a question puts its key in front of the kept ones, whether it was kept or not,
  and the last one goes when there is no room;
* **`Resolver.recorded`** — a resolver that also writes down what it is asked; `Resolver.asked_cached` —
  behind a cache it is asked for what is not kept;
* **`Resolver.KeepsRecent`** — the cache holds the most recent keys, after every question;
* **`Resolver.cached_keeps_recent`** — the cache holds exactly the most recent keys that fit into it, and
  exactly the other questions are passed on.
-/

namespace SheetFormula

variable {σ : Type}

/-! ## Recent keys -/

namespace NameKey

/-- **Recent keys**: those of some questions, each once, the most recent first. -/
def recent (history : List NameKey) : List NameKey := history.dedup.reverse

/-- A key is recent when it was ever asked for. -/
theorem mem_recent {key : NameKey} {history : List NameKey} : key ∈ recent history ↔ key ∈ history := by
  rw [recent, List.mem_reverse, List.mem_dedup]

/-- Each key is there once. -/
theorem nodup_recent (history : List NameKey) : (recent history).Nodup :=
  List.nodup_reverse.mpr (List.nodup_dedup history)

/-- There are as many recent keys as different ones. -/
theorem length_recent (history : List NameKey) : (recent history).length = history.toFinset.card := by
  rw [recent, List.length_reverse, List.card_toFinset]

/-- **One more question** makes its key the most recent one, and keeps the others in their order. -/
theorem recent_concat (history : List NameKey) (key : NameKey) :
    recent (history ++ [key]) = key :: (recent history).filter (· != key) := by
  have last : (history ++ [key]).dedup = history.dedup.filter (· != key) ++ [key] := by
    induction history with
    | nil => rfl
    | cons first history ih =>
        rw [List.cons_append, List.dedup_cons, List.dedup_cons, ih]
        by_cases asked : first ∈ history
        · rw [if_pos asked, if_pos (List.mem_append_left _ asked)]
        · rw [if_neg asked]
          by_cases same : first = key
          · -- Its only question so far is the first one, which the new one replaces.
            subst same
            rw [if_pos (by simp), List.filter_cons_of_neg (by simp)]
          · rw [if_neg (by simp [asked, same]), List.filter_cons_of_pos (by simpa using same),
              List.cons_append]
  rw [recent, recent, last, List.reverse_append, List.filter_reverse]
  rfl

/-- **The keys asked for since** stand before a key, and only they do. -/
theorem recent_since {key : NameKey} {since : List NameKey} (last : key ∉ since) (before : List NameKey) :
    ∃ older, recent (before ++ key :: since) = recent since ++ key :: older := by
  obtain ⟨older, split⟩ := List.suffix_union_right before (key :: since).dedup
  refine ⟨older.reverse, ?_⟩
  rw [recent, recent, List.dedup_append, ← split, List.dedup_cons_of_notMem last]
  simp

/-- **A key is not among the most recent ones** when nobody ever asked for it, or too many others were asked
for since the last time. -/
theorem not_mem_take_recent_iff (key : NameKey) (history : List NameKey) (n : Nat) :
    key ∉ (recent history).take n ↔
      key ∉ history ∨ ∃ before since, history = before ++ key :: since ∧ key ∉ since ∧
        n ≤ since.toFinset.card := by
  have place : ∀ before since, key ∉ since →
      (key ∉ (recent (before ++ key :: since)).take n ↔ n ≤ since.toFinset.card) := by
    intro before since last
    obtain ⟨older, split⟩ := recent_since last before
    have absent : key ∉ recent since := fun mem => last (mem_recent.mp mem)
    rw [split, ← length_recent]
    constructor
    · intro gone
      by_contra room
      obtain ⟨m, left⟩ : ∃ m, n - (recent since).length = m + 1 := ⟨n - (recent since).length - 1, by omega⟩
      rw [List.take_append, left, List.take_succ_cons] at gone
      exact gone (List.mem_append_right _ List.mem_cons_self)
    · intro full kept
      rw [List.take_append_of_le_length full] at kept
      exact absent (List.mem_of_mem_take kept)
  constructor
  · intro gone
    by_cases asked : key ∈ history
    · -- Split at the last time, which is the first one from behind.
      obtain ⟨after, front, split, last⟩ := List.eq_append_cons_of_mem (List.mem_reverse.mpr asked)
      have split' : history = front.reverse ++ key :: after.reverse := by
        rw [← List.reverse_reverse history, split]
        simp
      have last' : key ∉ after.reverse := by rwa [List.mem_reverse]
      exact .inr ⟨_, _, split', last', (place _ _ last').mp (split' ▸ gone)⟩
    · exact .inl asked
  · rintro (never | ⟨before, since, rfl, last, full⟩)
    · exact fun kept => never (mem_recent.mp (List.mem_of_mem_take kept))
    · exact (place before since last).mpr full

/-- **Forgetting early does not show**: among the most recent keys, it does not matter whether older ones were
dropped before the last question. -/
theorem take_cons_filter_take (key : NameKey) {keys : List NameKey} (nodup : keys.Nodup) (n : Nat) :
    (key :: (keys.take n).filter (· != key)).take n = (key :: keys.filter (· != key)).take n := by
  cases n with
  | zero => rfl
  | succ n =>
      rw [List.take_succ_cons, List.take_succ_cons]
      congr 1
      by_cases long : keys.length ≤ n + 1
      · rw [List.take_of_length_le long]
      · -- At most one of the first keys is the one asked for, so enough of them are left without the others.
        have enough : n ≤ ((keys.take (n + 1)).filter (· != key)).length := by
          have few : (keys.take (n + 1)).length - 1 ≤ ((keys.take (n + 1)).erase key).length :=
            List.le_length_erase
          rw [((List.take_sublist _ _).nodup nodup).erase_eq_filter, List.length_take] at few
          omega
        have split : keys.filter (· != key) =
            (keys.take (n + 1)).filter (· != key) ++ (keys.drop (n + 1)).filter (· != key) := by
          rw [← List.filter_append, List.take_append_drop]
        rw [split, List.take_append_of_le_length enough]

end NameKey

/-! ## Kept keys -/

namespace NameCache

/-- **Kept keys**, the most recently used first. -/
def keys (c : NameCache) : List NameKey := c.entries.map Prod.fst

/-- There is one key for each entry. -/
theorem length_keys (c : NameCache) : c.keys.length = c.size := by rw [keys, List.length_map, size]

/-- Taking out an entry takes out its key. -/
theorem map_without (key : NameKey) (entries : List (NameKey × Option String)) :
    (without key entries).map Prod.fst = (entries.map Prod.fst).filter (· != key) := by
  rw [without, List.filter_map]
  rfl

/-- What is not found is not among the keys. -/
theorem lookup_eq_none_iff (c : NameCache) (key : NameKey) : c.entries.lookup key = none ↔ key ∉ c.keys := by
  rw [List.lookup_eq_none_iff, keys, List.mem_map]
  constructor
  · rintro none ⟨e, mem, rfl⟩
    simpa using none e mem
  · intro absent e mem
    rw [bne_iff_ne]
    rintro rfl
    exact absent ⟨e, mem, rfl⟩

/-- **A kept answer** is given again without a question to the resolver, and becomes the most recent one. -/
theorem cached_of_mem (r : Resolver σ) {key : NameKey} {c : NameCache} (kept : key ∈ c.keys) (s : σ) :
    ∃ answer, r.cached key (s, c) =
      (answer, s, { c with entries := (key, answer) :: without key c.entries }) := by
  cases found : c.entries.lookup key with
  | none => exact absurd kept ((c.lookup_eq_none_iff key).mp found)
  | some answer =>
      refine ⟨answer, ?_⟩
      simp only [Resolver.cached, get?, found]

/-- **An answer that is not kept** is asked for and put in. -/
theorem cached_of_notMem (r : Resolver σ) {key : NameKey} {c : NameCache} (absent : key ∉ c.keys) (s : σ) :
    r.cached key (s, c) = ((r key s).1, (r key s).2, c.add key (r key s).1) := by
  simp only [Resolver.cached, get?, (c.lookup_eq_none_iff key).mpr absent]

/-- **What a question does to the kept keys**: its own comes to the front, whether it was kept or not, and the
last one goes when there is no room. -/
theorem keys_cached (r : Resolver σ) (key : NameKey) (s : σ) {c : NameCache}
    (fits : c.keys.length ≤ c.capacity) :
    (r.cached key (s, c)).2.2.capacity = c.capacity ∧
      (r.cached key (s, c)).2.2.keys = (key :: c.keys.filter (· != key)).take c.capacity := by
  by_cases kept : key ∈ c.keys
  · obtain ⟨answer, cached⟩ := cached_of_mem r kept s
    -- The key was counted before, so all of them still fit.
    have shorter : (c.keys.filter (· != key)).length < c.keys.length :=
      List.length_filter_lt_length_iff_exists.mpr ⟨key, kept, by simp⟩
    rw [cached, List.take_of_length_le (by rw [List.length_cons]; omega)]
    refine ⟨rfl, ?_⟩
    simp only [keys, List.map_cons, map_without]
  · rw [cached_of_notMem r kept s]
    refine ⟨rfl, ?_⟩
    simp only [add, keys, List.map_take, List.map_cons, map_without]

end NameCache

/-! ## Questions -/

namespace Resolver

/-- **State after some questions**, one after the other. -/
def after (r : Resolver σ) (s : σ) (history : List NameKey) : σ := history.foldl (fun s key => (r key s).2) s

/-- The state behind one more question comes from the answer to it. -/
theorem after_concat (r : Resolver σ) (s : σ) (history : List NameKey) (key : NameKey) :
    r.after s (history ++ [key]) = (r key (r.after s history)).2 := by
  rw [after, List.foldl_append]
  rfl

/-- **Recording resolver**: it also writes down what it is asked, in order. -/
def recorded (r : Resolver σ) : Resolver (σ × List NameKey) := fun key (s, asked) =>
  match r key s with
  | (answer, s') => (answer, s', asked ++ [key])

/-- **Writing down changes nothing**: a cached resolver answers as before, and goes on with the same cache. -/
theorem cached_recorded (r : Resolver σ) (key : NameKey) (state : (σ × List NameKey) × NameCache) :
    r.cached key (state.1.1, state.2) =
      ((r.recorded.cached key state).1, (r.recorded.cached key state).2.1.1,
        (r.recorded.cached key state).2.2) := by
  obtain ⟨⟨s, asked⟩, c⟩ := state
  unfold cached
  dsimp only
  generalize c.get? key = found
  obtain ⟨_ | answer, c'⟩ := found
  · rfl
  · rfl

/-- Recording the questions does not change the states. -/
theorem after_recorded (r : Resolver σ) (s : σ) (c : NameCache) (history : List NameKey) :
    r.cached.after (s, c) history =
      ((r.recorded.cached.after ((s, []), c) history).1.1,
        (r.recorded.cached.after ((s, []), c) history).2) := by
  induction history using List.reverseRecOn with
  | nil => rfl
  | append_singleton history key ih => rw [after_concat, after_concat, ih, cached_recorded]

/-- **Behind a cache** a resolver is asked for what is not kept, and for nothing else. -/
theorem asked_cached (r : Resolver σ) (key : NameKey) (state : (σ × List NameKey) × NameCache) :
    (r.recorded.cached key state).2.1.2 = state.1.2 ++ if key ∈ state.2.keys then [] else [key] := by
  obtain ⟨⟨s, asked⟩, c⟩ := state
  by_cases kept : key ∈ c.keys
  · obtain ⟨answer, cached⟩ := NameCache.cached_of_mem r.recorded kept (s, asked)
    rw [cached, if_pos kept, List.append_nil]
  · rw [NameCache.cached_of_notMem r.recorded kept (s, asked), if_neg kept]
    rfl

/-- **A cache keeps what is recent**: with some room, it holds as many of the most recent keys as there is
room for. -/
structure KeepsRecent (room : Nat) (history : List NameKey) (c : NameCache) : Prop where
  /-- There is that much room. -/
  capacity : c.capacity = room
  /-- It holds the most recent keys. -/
  keys : c.keys = (NameKey.recent history).take room

variable {room : Nat} {history : List NameKey} {c : NameCache}

/-- An empty cache keeps what is recent before the first question. -/
theorem KeepsRecent.start (room : Nat) : KeepsRecent room [] { capacity := room } := ⟨rfl, List.take_nil.symm⟩

/-- The recent keys fit in. -/
theorem KeepsRecent.fits (h : KeepsRecent room history c) : c.keys.length ≤ c.capacity := by
  rw [h.keys, h.capacity, List.length_take]
  exact Nat.min_le_left _ _

/-- **A question keeps it so.** -/
theorem KeepsRecent.cached (h : KeepsRecent room history c) (r : Resolver σ) (key : NameKey) (s : σ) :
    KeepsRecent room (history ++ [key]) (r.cached key (s, c)).2.2 := by
  obtain ⟨capacity, keys⟩ := NameCache.keys_cached r key s h.fits
  refine ⟨capacity.trans h.capacity, ?_⟩
  rw [keys, h.keys, h.capacity, NameKey.recent_concat,
    NameKey.take_cons_filter_take key (NameKey.nodup_recent history) room]

/-- **So it is after any questions.** -/
theorem KeepsRecent.after (room : Nat) (r : Resolver σ) (s : σ) (history : List NameKey) :
    KeepsRecent room history (r.cached.after (s, { capacity := room }) history).2 := by
  induction history using List.reverseRecOn with
  | nil => exact .start room
  | append_singleton history key ih =>
      rw [after_concat]
      exact ih.cached r key _

/-- **With room for all keys each is asked for once**, the first time. -/
theorem asked_once (r : Resolver σ) (s : σ) {history : List NameKey} (few : history.toFinset.card ≤ room) :
    (r.recorded.cached.after ((s, []), { capacity := room }) history).1.2.Nodup ∧
      ∀ key, key ∈ (r.recorded.cached.after ((s, []), { capacity := room }) history).1.2 ↔ key ∈ history := by
  induction history using List.reverseRecOn with
  | nil => exact ⟨List.nodup_nil, fun _ => Iff.rfl⟩
  | append_singleton history key ih =>
      have fewer : history.toFinset.card ≤ room :=
        Nat.le_trans (Finset.card_le_card fun k mem => by simp_all) few
      obtain ⟨nodup, same⟩ := ih fewer
      -- All keys so far are kept, so the question is passed on exactly when it is new.
      have keys := (KeepsRecent.after room r.recorded (s, []) history).keys
      rw [List.take_of_length_le (by rwa [NameKey.length_recent])] at keys
      rw [after_concat, asked_cached, keys]
      by_cases old : key ∈ history
      · rw [if_pos (NameKey.mem_recent.mpr old), List.append_nil]
        refine ⟨nodup, fun k => (same k).trans ?_⟩
        rw [List.mem_append, List.mem_singleton]
        exact ⟨.inl, fun asked => asked.elim id fun here => here ▸ old⟩
      · rw [if_neg fun recent => old (NameKey.mem_recent.mp recent)]
        refine ⟨?_, fun k => ?_⟩
        · rw [List.nodup_append]
          refine ⟨nodup, List.nodup_singleton key, ?_⟩
          rintro k mem k' mem' rfl
          rw [List.mem_singleton] at mem'
          exact old ((same key).mp (mem' ▸ mem))
        · rw [List.mem_append, List.mem_append, same k]

/-- **The cache keeps exactly what was used most recently.** Take any resolver that writes down what reaches
it, a cache of any positive size, and any questions for sheets and files, one after the other. Before the next
question the cache holds as many of the most recently asked keys as there is room for, the latest first. The
question reaches the resolver exactly when its key is not among them: when nobody asked for it before, or
since the last time at least as many other keys were asked for as there is room. The cache holds all distinct
keys, up to its size, and while these fit into it each of them reaches the resolver exactly once. -/
theorem cached_keeps_recent (r : Resolver σ) (s : σ) {size : Int64} (positive : 0 < size) :
    ∃ cache, NameCache.new? size = some cache ∧ ∀ history,
      let state := r.recorded.cached.after ((s, []), cache) history
      let kept := (NameKey.recent history).take size.toInt.toNat
      r.cached.after (s, cache) history = (state.1.1, state.2) ∧ state.2.keys = kept ∧
        (∀ key, (r.recorded.cached key state).2.1.2 = state.1.2 ++ (if key ∈ kept then [] else [key]) ∧
          (key ∉ kept ↔ key ∉ history ∨ ∃ before since, history = before ++ key :: since ∧ key ∉ since ∧
            size.toInt ≤ since.toFinset.card)) ∧
        (state.2.size : Int) = min size.toInt history.toFinset.card ∧
        (history.toFinset.card ≤ size.toInt → state.1.2.Nodup ∧ ∀ key, key ∈ state.1.2 ↔ key ∈ history) := by
  have zero : (0 : Int64).toInt = 0 := rfl
  have room : (size.toInt.toNat : Int) = size.toInt := by
    rw [Int64.lt_iff_toInt_lt, zero] at positive
    omega
  refine ⟨_, if_pos positive, fun history => ?_⟩
  have keys := (KeepsRecent.after size.toInt.toNat r.recorded (s, []) history).keys
  refine ⟨after_recorded r s _ history, keys, fun key => ⟨?_, ?_⟩, ?_, fun few => asked_once r s (by omega)⟩
  · rw [asked_cached, keys]
  · simp only [NameKey.not_mem_take_recent_iff, Int.toNat_le]
  · rw [← NameCache.length_keys, keys, List.length_take, NameKey.length_recent]
    omega

/-- Room for two answers: the second question for sheet 1 makes sheet 2 the one that goes when a file is asked
for, although nobody knows the file. Sheet 2 is asked for again, and sheet 1 is not. -/
theorem cached_keeps_recent_two :
    let r := (NameTable.names { sheets := [(1, "Data")] }).resolver
    let state := r.recorded.cached.after (((), []), { capacity := 2 }) [.sheet 1, .sheet 2, .sheet 1, .file 1]
    state.2.entries = [(.file 1, none), (.sheet 1, some "Data")] ∧
      state.1.2 = [.sheet 1, .sheet 2, .file 1] ∧
      (r.recorded.cached (.sheet 2) state).2.1.2 = [.sheet 1, .sheet 2, .file 1, .sheet 2] ∧
      (r.recorded.cached (.sheet 1) state).2.1.2 = [.sheet 1, .sheet 2, .file 1] := by
  intro r state
  obtain ⟨cache, made, keeps⟩ := cached_keeps_recent r () (show (0 : Int64) < 2 by decide)
  obtain rfl : ({ capacity := 2 } : NameCache) = cache := Option.some.inj (by rw [← made]; decide +kernel)
  obtain ⟨-, -, next, -⟩ := keeps [.sheet 1, .sheet 2, .sheet 1, .file 1]
  refine ⟨by decide +kernel, by decide +kernel, ?_, ?_⟩
  · exact (next (.sheet 2)).1.trans (by decide +kernel)
  · exact (next (.sheet 1)).1.trans (by decide +kernel)

end Resolver

end SheetFormula
