import SheetFormula.Proofs.LockstepRun

/-!
# A cache shared by many lookups

Lookups of names share one cache. A lookup takes up to three steps: it looks into the cache, asks the resolver
behind the cache when no answer is kept, and puts in what it hears. Between the steps of one lookup any steps
of others may happen:

* **`SharedCache`**, `SharedCache.step`, `SharedCache.run` — a cache with the lookups on it, and what can
  happen to them, in any order; `SharedCache.Step`, `SharedCache.step_spec` say what one event does;
* **`SharedCache.run_alone`** — the steps of a lookup, one right after the other, are a question to the cached
  resolver;
* **`SharedCache.Faithful`** — the cache and every lookup hold only answers of the assignment, after every
  event;
* **`SharedCache.Further`**, `SharedCache.run_further` — a lookup is over after three steps of its own;
* **`SharedCache.amid`** — a resolver whose questions are asked amid the steps of other lookups;
* **`SharedCache.run_invisible`** — neither lookups nor decoding show the cache.
-/

namespace SheetFormula

variable {σ : Type}

/-! ## Lookups -/

/-- **How far a lookup has come**. -/
inductive Lookup.Stage where
  /-- It has not looked into the cache. -/
  | called
  /-- The cache holds no answer. -/
  | missed
  /-- The resolver has answered. -/
  | heard (answer : Option String)
  /-- It is over. -/
  | returned (answer : Option String)
  deriving DecidableEq, Repr

/-- **A lookup**: what is asked for, and how far it has come. -/
structure Lookup where
  /-- What is asked for. -/
  key : NameKey
  /-- How far it has come. -/
  stage : Lookup.Stage := .called
  deriving DecidableEq, Repr

namespace Lookup.Stage

/-- The answer of a lookup, once it has one. -/
def answer? : Stage → Option (Option String)
  | .called | .missed => none
  | .heard answer | .returned answer => some answer

/-- Stages in order, as numbers. -/
def rank : Stage → Nat
  | .called => 0
  | .missed => 1
  | .heard _ => 2
  | .returned _ => 3

/-- Only a lookup that is over has the last rank. -/
theorem eq_returned_of_rank {stage : Stage} (last : 3 ≤ stage.rank) : ∃ answer, stage = .returned answer := by
  cases stage with
  | returned answer => exact ⟨answer, rfl⟩
  | called | missed | heard _ => simp only [rank] at last; omega

end Lookup.Stage

/-- **A cache with the lookups on it**, and the state of the resolver behind it. -/
structure SharedCache (σ : Type) where
  /-- State of the resolver. -/
  names : σ
  /-- The cache. -/
  cache : NameCache
  /-- The lookups, in the order of their calls. -/
  lookups : List Lookup := []

namespace SharedCache

/-- **What can happen to a shared cache**. -/
inductive Event where
  /-- A name is asked for. -/
  | call (key : NameKey)
  /-- A lookup takes its next step. -/
  | advance (lookup : Nat)
  deriving DecidableEq, Repr

/-- A lookup has come to a stage. -/
def moved (s : SharedCache σ) (i : Nat) (key : NameKey) (stage : Lookup.Stage) : SharedCache σ :=
  { s with lookups := s.lookups.set i ⟨key, stage⟩ }

/-- **Next step of a lookup**. One that is over takes none. -/
def advance (r : Resolver σ) (i : Nat) (s : SharedCache σ) : SharedCache σ :=
  match s.lookups[i]? with
  | some ⟨key, .called⟩ =>
    match s.cache.get? key with
    | (some answer, cache) => ({ s with cache } : SharedCache σ).moved i key (.returned answer)
    | (none, cache) => ({ s with cache } : SharedCache σ).moved i key .missed
  | some ⟨key, .missed⟩ =>
    match r key s.names with
    | (answer, names) => ({ s with names } : SharedCache σ).moved i key (.heard answer)
  | some ⟨key, .heard answer⟩ =>
    ({ s with cache := s.cache.add key answer } : SharedCache σ).moved i key (.returned answer)
  | some ⟨_, .returned _⟩ | none => s

/-- **One event**. -/
def step (r : Resolver σ) (s : SharedCache σ) : Event → SharedCache σ
  | .call key => { s with lookups := s.lookups ++ [⟨key, .called⟩] }
  | .advance i => advance r i s

/-- **Run of a shared cache** through some events. -/
def run (r : Resolver σ) (s : SharedCache σ) (events : List Event) : SharedCache σ := events.foldl (step r) s

variable {r : Resolver σ} {s : SharedCache σ}

/-! ## What an event can do -/

/-- **What an event can do to a shared cache**. -/
inductive Step (r : Resolver σ) (s : SharedCache σ) : Event → SharedCache σ → Prop
  /-- A name is asked for. -/
  | call (key : NameKey) : Step r s (.call key) { s with lookups := s.lookups ++ [⟨key, .called⟩] }
  /-- There is no such lookup, or it is over. -/
  | stay {i : Nat} (finished : ∀ l, s.lookups[i]? = some l → 3 ≤ l.stage.rank) : Step r s (.advance i) s
  /-- The cache holds the answer. -/
  | hit {i : Nat} {key : NameKey} {answer : Option String} {cache : NameCache}
      (here : s.lookups[i]? = some ⟨key, .called⟩) (found : s.cache.get? key = (some answer, cache)) :
      Step r s (.advance i) (({ s with cache } : SharedCache σ).moved i key (.returned answer))
  /-- The cache holds no answer. -/
  | miss {i : Nat} {key : NameKey} {cache : NameCache}
      (here : s.lookups[i]? = some ⟨key, .called⟩) (found : s.cache.get? key = (none, cache)) :
      Step r s (.advance i) (({ s with cache } : SharedCache σ).moved i key .missed)
  /-- The resolver answers. -/
  | ask {i : Nat} {key : NameKey} (here : s.lookups[i]? = some ⟨key, .missed⟩) :
      Step r s (.advance i)
        (({ s with names := (r key s.names).2 } : SharedCache σ).moved i key (.heard (r key s.names).1))
  /-- The answer is put in. -/
  | keep {i : Nat} {key : NameKey} {answer : Option String}
      (here : s.lookups[i]? = some ⟨key, .heard answer⟩) :
      Step r s (.advance i)
        (({ s with cache := s.cache.add key answer } : SharedCache σ).moved i key (.returned answer))

/-- **Every event does one of these.** -/
theorem step_spec (r : Resolver σ) (s : SharedCache σ) (e : Event) : Step r s e (step r s e) := by
  cases e with
  | call key => exact .call key
  | advance i =>
      show Step r s (.advance i) (advance r i s)
      unfold advance
      -- One case for each stage of the lookup, and one for a lookup that is not there.
      split
      · next key here =>
        split
        · next found => exact .hit here found
        · next found => exact .miss here found
      · next here => exact .ask here
      · next here => exact .keep here
      · next here =>
        refine .stay fun l found => ?_
        obtain rfl := Option.some.inj (here.symm.trans found)
        exact Nat.le_refl 3
      · next absent => exact .stay fun l found => nomatch absent.symm.trans found

/-! ## Answers -/

/-- **A faithful shared cache**: the resolver answers by the assignment, and the cache and the lookups hold
only answers of it. -/
structure Faithful (R : σ → Unit → Prop) (names : Names) (s : SharedCache σ) : Prop where
  /-- The resolver answers by the assignment. -/
  source : R s.names ()
  /-- The cache holds answers of it. -/
  cache : s.cache.Faithful names
  /-- So do the lookups. -/
  lookups : ∀ l ∈ s.lookups, ∀ answer, l.stage.answer? = some answer → answer = names l.key

variable {R : σ → Unit → Prop} {names : Names}

/-- Lookups stay faithful when one of them moves on to a right answer, or to none. -/
theorem Faithful.lookups_moved (h : Faithful R names s) (i : Nat) {key : NameKey} {stage : Lookup.Stage}
    (right : ∀ answer, stage.answer? = some answer → answer = names key) :
    ∀ l ∈ s.lookups.set i ⟨key, stage⟩, ∀ answer, l.stage.answer? = some answer → answer = names l.key := by
  intro l mem
  rcases List.mem_or_eq_of_mem_set mem with mem | rfl
  · exact h.lookups l mem
  · exact right

/-- **Events keep a shared cache faithful.** -/
theorem Faithful.step (related : Resolver.Relates R r names.resolver) (h : Faithful R names s) (e : Event) :
    Faithful R names (step r s e) := by
  have did := step_spec r s e
  generalize SharedCache.step r s e = next at did ⊢
  cases did with
  | stay finished => exact h
  | call key =>
      refine ⟨h.source, h.cache, fun l mem => ?_⟩
      rcases List.mem_append.mp mem with mem | mem
      · exact h.lookups l mem
      · obtain rfl := List.mem_singleton.mp mem
        exact nofun
  | @hit i key answer cache here found =>
      have kept := h.cache.get? key
      rw [found] at kept
      refine ⟨h.source, kept.2, h.lookups_moved i ?_⟩
      rintro _ ⟨⟩
      exact kept.1 answer rfl
  | @miss i key cache here found =>
      have kept := (h.cache.get? key).2
      rw [found] at kept
      exact ⟨h.source, kept, h.lookups_moved i nofun⟩
  | @ask i key here =>
      obtain ⟨right, next⟩ := related _ _ h.source key
      refine ⟨next, h.cache, h.lookups_moved i ?_⟩
      rintro _ ⟨⟩
      exact right
  | @keep i key answer here =>
      -- What was heard was right already when the resolver answered.
      have right : answer = names key := h.lookups _ (List.mem_of_getElem? here) answer rfl
      refine ⟨h.source, h.cache.add key right, h.lookups_moved i ?_⟩
      rintro _ ⟨⟩
      exact right

/-- **Along a run** the cache stays faithful. -/
theorem Faithful.run (related : Resolver.Relates R r names.resolver) (h : Faithful R names s)
    (events : List Event) :
    Faithful R names (run r s events) := by
  induction events generalizing s with
  | nil => exact h
  | cons e events ih => exact ih (h.step related e)

/-! ## Progress -/

/-- **A lookup has come `n` steps further**, or to its end. -/
def Further (l : Lookup) (n : Nat) (found : Option Lookup) : Prop :=
  ∃ l', found = some l' ∧ l'.key = l.key ∧ min 3 (l.stage.rank + n) ≤ l'.stage.rank

/-- A lookup that nobody advances stays where it is. -/
theorem Further.none (l : Lookup) : Further l 0 (some l) := ⟨l, rfl, rfl, Nat.min_le_right _ _⟩

/-- The step of a lookup is one for itself and none for the others. -/
theorem count_advance (i j : Nat) : [Event.advance j].count (.advance i) = if j = i then 1 else 0 := by
  simp [List.count_singleton]

/-- A lookup that moves on to a later stage comes one step further, and the others stay where they are. -/
theorem further_moved {i j : Nat} {l : Lookup} (here : s.lookups[i]? = some l) {key : NameKey}
    {old : Lookup.Stage} (there : s.lookups[j]? = some ⟨key, old⟩) {stage : Lookup.Stage}
    (later : old.rank < stage.rank) :
    Further l ([Event.advance j].count (.advance i)) (s.lookups.set j ⟨key, stage⟩)[i]? := by
  rw [List.getElem?_set, if_pos (List.getElem?_eq_some_iff.mp there).1, count_advance]
  by_cases same : j = i
  · subst same
    obtain rfl := Option.some.inj (there.symm.trans here)
    rw [if_pos rfl, if_pos rfl]
    exact ⟨_, rfl, rfl, Nat.le_trans (Nat.min_le_right _ _) later⟩
  · rw [if_neg same, if_neg same, here]
    exact .none l

/-- **A lookup never goes back**, and comes closer to its end with each step of its own. -/
theorem step_further (r : Resolver σ) (e : Event) {i : Nat} {l : Lookup} (here : s.lookups[i]? = some l) :
    Further l ([e].count (.advance i)) (step r s e).lookups[i]? := by
  have did := step_spec r s e
  generalize step r s e = next at did ⊢
  cases did with
  | call key =>
      have still : (s.lookups ++ [⟨key, .called⟩])[i]? = some l :=
        (List.getElem?_append_left (List.getElem?_eq_some_iff.mp here).1).trans here
      rw [still, List.count_singleton, if_neg (by simp)]
      exact .none l
  -- An event without effect finds the lookup at its end, or is one for another.
  | @stay j finished =>
      rw [here, count_advance]
      by_cases same : j = i
      · subst same
        exact ⟨l, rfl, rfl, Nat.le_trans (Nat.min_le_left _ _) (finished l here)⟩
      · rw [if_neg same]
        exact .none l
  | hit there found => exact further_moved here there (show 0 < 3 by decide)
  | miss there found => exact further_moved here there (show 0 < 1 by decide)
  | ask there => exact further_moved here there (show 1 < 2 by decide)
  | keep there => exact further_moved here there (show 2 < 3 by decide)

/-- **Along every run** a lookup comes closer to its end with each step of its own. -/
theorem run_further (r : Resolver σ) (events : List Event) {i : Nat} {l : Lookup}
    (here : s.lookups[i]? = some l) :
    Further l (events.count (.advance i)) (run r s events).lookups[i]? := by
  induction events generalizing s l with
  | nil =>
      show Further l 0 s.lookups[i]?
      rw [here]
      exact .none l
  | cons e events ih =>
      -- The steps of the first event and of the others add up.
      obtain ⟨l₁, here₁, key₁, rank₁⟩ := step_further r e here
      obtain ⟨l₂, here₂, key₂, rank₂⟩ := ih here₁
      refine ⟨l₂, here₂, key₂.trans key₁, ?_⟩
      have counts : ([e] ++ events).count (.advance i) = [e].count (.advance i) + events.count (.advance i) :=
        List.count_append
      rw [List.singleton_append] at counts
      omega

/-- **A lookup returns the right answer** after three steps of its own, whatever happens between them. -/
theorem Faithful.returns (related : Resolver.Relates R r names.resolver) (h : Faithful R names s) {i : Nat}
    {l : Lookup} (here : s.lookups[i]? = some l) {events : List Event}
    (steps : 3 ≤ events.count (.advance i)) :
    (SharedCache.run r s events).lookups[i]? = some ⟨l.key, .returned (names l.key)⟩ := by
  obtain ⟨⟨key, stage⟩, found, same, rank⟩ := run_further r events here
  obtain rfl : key = l.key := same
  have last : 3 ≤ stage.rank := by
    dsimp only at rank
    omega
  obtain ⟨answer, rfl⟩ := Lookup.Stage.eq_returned_of_rank last
  have right : answer = names l.key :=
    (h.run related events).lookups _ (List.mem_of_getElem? found) answer rfl
  rw [found, right]

/-! ## Lookups without others -/

/-- The events of a lookup with no others between them. -/
def alone (s : SharedCache σ) (key : NameKey) : List Event :=
  [.call key, .advance s.lookups.length, .advance s.lookups.length, .advance s.lookups.length]

/-- **A lookup without others is a question to the cached resolver.** -/
theorem run_alone (r : Resolver σ) (s : SharedCache σ) (key : NameKey) :
    run r s (s.alone key) =
      ⟨(r.cached key (s.names, s.cache)).2.1, (r.cached key (s.names, s.cache)).2.2,
        s.lookups ++ [⟨key, .returned (r.cached key (s.names, s.cache)).1⟩]⟩ := by
  -- The lookup stays the last one, so each of its steps finds and replaces the last entry.
  have last : ∀ l : Lookup, (s.lookups ++ [l])[s.lookups.length]? = some l :=
    fun l => List.getElem?_concat_length
  have put : ∀ l l' : Lookup, (s.lookups ++ [l]).set s.lookups.length l' = s.lookups ++ [l'] := by
    intro l l'
    rw [List.set_append_right _ _ (Nat.le_refl _), Nat.sub_self, List.set_cons_zero]
  show advance r _ (advance r _ (advance r _ { s with lookups := s.lookups ++ [⟨key, .called⟩] })) = _
  unfold Resolver.cached
  rcases found : s.cache.get? key with ⟨_ | answer, cache⟩
  · simp only [advance, moved, last, put, found]
  · simp only [advance, moved, last, put, found]

/-! ## Lookups amid others -/

/-- **What happens around the steps of a lookup**: before it looks into the cache, before it asks, and before
it puts the answer in. -/
structure Gaps where
  /-- Before it looks into the cache. -/
  first : List Event := []
  /-- Before it asks. -/
  second : List Event := []
  /-- Before it puts the answer in. -/
  third : List Event := []

/-- The steps of a lookup with what happens around them. -/
def Gaps.around (g : Gaps) (i : Nat) : List Event :=
  g.first ++ .advance i :: (g.second ++ .advance i :: (g.third ++ [.advance i]))

/-- Between its gaps, a lookup is advanced three times at least. -/
theorem Gaps.le_count_around (g : Gaps) (i : Nat) : 3 ≤ (g.around i).count (.advance i) := by
  simp only [around, List.count_append, List.count_cons_self, List.count_nil]
  omega

/-- The answer of a lookup that is over. -/
def answer (s : SharedCache σ) (i : Nat) : Option String :=
  match s.lookups[i]? with
  | some ⟨_, .returned answer⟩ => answer
  | _ => none

/-- **Resolver amid others**: each question is a lookup on the shared cache, and other lookups go on around
its steps. -/
def amid (r : Resolver σ) : Resolver (SharedCache σ × List Gaps) := fun key (s, gaps) =>
  let s' := run r s (.call key :: (gaps.headD {}).around s.lookups.length)
  (s'.answer s.lookups.length, s', gaps.tail)

/-- **Others do not show**: amid them, questions are answered by the assignment. -/
theorem amid_related (related : Resolver.Relates R r names.resolver) :
    Resolver.Relates (fun state _ => Faithful R names state.1) (amid r) names.resolver := by
  rintro ⟨s, gaps⟩ _ faithful key
  have called : Faithful R names (step r s (.call key)) := faithful.step related _
  have here : (step r s (.call key)).lookups[s.lookups.length]? = some ⟨key, .called⟩ :=
    List.getElem?_concat_length
  have returned := called.returns related here ((gaps.headD {}).le_count_around s.lookups.length)
  refine ⟨?_, faithful.run related _⟩
  show answer (run r (step r s (.call key)) _) _ = names key
  rw [answer, returned]

/-! ## The cache does not show -/

/-- **A cache of a positive size** starts empty, so it holds nothing that could be wrong. -/
theorem Faithful.start (names : Names) {source : σ} (answers : R source ()) {size : Int64}
    (positive : 0 < size) :
    ∃ cache, NameCache.new? size = some cache ∧ Faithful R names ⟨source, cache, []⟩ :=
  ⟨_, if_pos positive, answers, nofun, nofun⟩

/-- **The cache of names is invisible.** Take a resolver whose answers do not change, a cache of any positive
size, and any events: names of sheets and files are asked for, and the lookups take their steps in any order.
Each lookup returns, after at most three steps of its own, exactly what the resolver answers, and so does the
next question to the cached resolver, which is a lookup without others. From the cache as it is then, decoding
any data has the outcome and the log that it has with the resolver itself, also when other lookups go on
between the steps of its own. -/
theorem run_invisible (o : Options σ) {names : Names} {source : σ}
    (steady : o.resolver.Alike names.resolver source ()) {size : Int64} (positive : 0 < size) :
    ∃ cache, NameCache.new? size = some cache ∧ ∀ events,
      let shared := run o.resolver ⟨source, cache, []⟩ events
      (∀ i l, shared.lookups[i]? = some l →
          (∀ answer, l.stage = .returned answer → answer = (o.resolver l.key source).1) ∧
          ∀ more, 3 ≤ more.count (.advance i) →
            (run o.resolver shared more).lookups[i]? = some ⟨l.key, .returned (o.resolver l.key source).1⟩) ∧
        (∀ key, (o.resolver.cached key (shared.names, shared.cache)).1 = (o.resolver key source).1 ∧
          run o.resolver shared (shared.alone key) =
            ⟨(o.resolver.cached key (shared.names, shared.cache)).2.1,
              (o.resolver.cached key (shared.names, shared.cache)).2.2,
              shared.lookups ++ [⟨key, .returned (o.resolver.cached key (shared.names, shared.cache)).1⟩]⟩) ∧
        ∀ data stop, let plain := decode o source data stop
          let cached := decode (o.withResolver o.resolver.cached) (shared.names, shared.cache) data stop
          cached.outcome = plain.outcome ∧ cached.log = plain.log ∧
            ∀ gaps, let others := decode (o.withResolver (amid o.resolver)) (shared, gaps) data stop
              others.outcome = plain.outcome ∧ others.log = plain.log := by
  obtain ⟨R, related, answers⟩ := steady
  obtain ⟨cache, made, start⟩ := Faithful.start names answers positive
  refine ⟨cache, made, fun events => ?_⟩
  intro shared
  have right : ∀ key, (o.resolver key source).1 = names key := fun key => (related _ _ answers key).1
  have faithful : Faithful R names shared := start.run related events
  obtain ⟨R', related', answers'⟩ :=
    Resolver.Alike.cached (r := o.resolver) ⟨R, related, faithful.source⟩ faithful.cache
  refine ⟨?_, ?_, fun data stop => ?_⟩
  · intro i l here
    rw [right]
    refine ⟨?_, fun more steps => faithful.returns related here steps⟩
    intro answer returned
    exact faithful.lookups l (List.mem_of_getElem? here) answer (by rw [returned]; rfl)
  · intro key
    rw [right]
    exact ⟨(related' _ _ answers' key).1, run_alone o.resolver shared key⟩
  · -- Each of the three decoders gets the answers of the assignment, and so has the outcome that they give.
    obtain ⟨outcome, log, -⟩ := decode_answered o related answers data stop
    obtain ⟨outcome₁, log₁, -⟩ :=
      decode_answered (o.withResolver o.resolver.cached) related' answers' data stop
    refine ⟨outcome₁.trans outcome.symm, log₁.trans log.symm, fun gaps => ?_⟩
    obtain ⟨outcome₂, log₂, -⟩ :=
      decode_answered (o.withResolver (amid o.resolver)) (amid_related related) (s := (shared, gaps)) faithful
        data stop
    exact ⟨outcome₂.trans outcome.symm, log₂.trans log.symm⟩

/-- A cache with room for one answer. A sheet that has a name and a file of the same number that has none are
asked for at once: both miss the cache, and the answer of the file is put in last. -/
theorem run_invisible_two :
    let o : Options Unit := ⟨.wk1, {}, (NameTable.names { sheets := [(1, "Data")] }).resolver⟩
    let shared := run o.resolver ⟨(), { capacity := 1 }, []⟩
      [.call (.sheet 1), .call (.file 1), .advance 1, .advance 0, .advance 0, .advance 1, .advance 0,
        .advance 1]
    shared.lookups = [⟨.sheet 1, .returned (some "Data")⟩, ⟨.file 1, .returned none⟩] ∧
      shared.cache.entries = [(.file 1, none)] ∧
      (decode (o.withResolver o.resolver.cached) (shared.names, shared.cache)
        [0x01, 0x00, 0x01, 0x02, 0x00] 5).outcome =
        (decode o () [0x01, 0x00, 0x01, 0x02, 0x00] 5).outcome := by
  intro o shared
  refine ⟨by decide +kernel, by decide +kernel, ?_⟩
  obtain ⟨cache, made, invisible⟩ :=
    run_invisible o (Resolver.alike_assignment _) (show (0 : Int64) < 1 by decide)
  obtain rfl : ({ capacity := 1 } : NameCache) = cache := Option.some.inj (by rw [← made]; decide +kernel)
  exact ((invisible _).2.2 _ _).1

end SharedCache

end SheetFormula
