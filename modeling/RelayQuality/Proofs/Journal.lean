import RelayQuality.Proofs.Conservation
import RelayQuality.Proofs.StableOrder

/-!
# The journal of a sweep

What a sweep hands out names an address and a number, which several records may share. The `journal` has each transmission
with its probe, as the probe stands after it. `Journaled` says how the queue, the table and the journal belong together,
and every probe that is boarded, sent again or taken out keeps it.
-/

namespace RelayQuality.Sweep

/-- What one look for timeouts transmits again, as it stands in the table then. -/
def resendings (pace : Pace) (now : Nat) (table : List Probe) (sequence : UInt16) : List Probe :=
  match table with
  | [] => []
  | p :: rest =>
    if now < p.deadline pace.timeout then []
    else if p.retries < pace.retries then
      p.resent sequence now :: resendings pace now (rest ++ [p.resent sequence now]) (sequence + 1)
    else resendings pace now rest sequence
termination_by credits pace.retries table + table.length
decreasing_by
  · simp only [credits_append, credits_cons, credits_nil, credit, Probe.resent, List.length_append, List.length_cons,
      List.length_nil]
    omega
  · simp only [credits_cons, List.length_cons]
    omega

def Call.made (s : Sweep) : Call → List Probe
  | .fill now => s.launches now
  | .expire now => resendings s.pace now s.flying s.nextSequence
  | .takeReply _ _ => []

namespace History

/-- The transmissions of these calls, in their order. -/
def journal (h : History) : List Call → List Probe
  | [] => []
  | c :: rest => c.made h.sweep ++ journal (h.call c) rest

def firsts (made : List Probe) : List Probe := made.filter (·.retries = 0)

theorem firsts_append (made more : List Probe) : firsts (made ++ more) = firsts made ++ firsts more :=
  List.filter_append _ _

/-- A retry comes after the transmission of the same record that it repeats. -/
def Traced (made : List Probe) : Prop :=
  ∀ before p after, made = before ++ p :: after → p.retries = 0 ∨
    ∃ earlier ∈ before, earlier.blank = p.blank ∧ p.retries = earlier.retries + 1

theorem Traced.concat {made : List Probe} {q : Probe} (traced : Traced made)
    (follows : q.retries = 0 ∨ ∃ earlier ∈ made, earlier.blank = q.blank ∧ q.retries = earlier.retries + 1) :
    Traced (made ++ [q]) := by
  intro before p after split
  rcases after.eq_nil_or_concat with rfl | ⟨rest, last, rfl⟩
  · obtain ⟨rfl, same⟩ := List.append_inj' split rfl
    obtain rfl : q = p := by simpa using same
    exact follows
  · rw [List.concat_eq_append, ← List.cons_append, ← List.append_assoc] at split
    obtain ⟨rfl, _⟩ := List.append_inj' split rfl
    exact traced before p rest rfl

/-- What was transmitted, since the sweep had a queue, is what it sent; all probes in flight are in it; and its first
transmissions are of the front of that queue. -/
structure Journaled (start queue flying : List Probe) (sent : List Dispatch) (made : List Probe) : Prop where
  sent : made.map Probe.dispatch = sent.reverse
  aboard : ∀ p ∈ flying, p ∈ made
  traced : Traced made
  firsts : ∃ gone, start = gone ++ queue ∧ (firsts made).map Probe.blank = gone.map Probe.blank

variable {start queue flying rest made : List Probe} {sent : List Dispatch} {p : Probe} {n : UInt16} {now : Nat}

theorem Journaled.transmit {left : List Probe} {q : Probe} (journaled : Journaled start queue flying sent made)
    (fewer : ∀ p ∈ rest, p ∈ flying)
    (follows : q.retries = 0 ∨ ∃ earlier ∈ made, earlier.blank = q.blank ∧ q.retries = earlier.retries + 1)
    (firsts : ∃ gone, start = gone ++ left ∧ (History.firsts (made ++ [q])).map Probe.blank = gone.map Probe.blank) :
    Journaled start left (rest ++ [q]) (q.dispatch :: sent) (made ++ [q]) where
  sent := by
    rw [List.map_append, journaled.sent, List.reverse_cons]
    rfl
  aboard := by
    intro p member
    rcases List.mem_append.mp member with before | last
    · exact List.mem_append_left _ (journaled.aboard p (fewer p before))
    · exact List.mem_append_right _ last
  traced := journaled.traced.concat follows
  firsts := firsts

theorem Journaled.board (journaled : Journaled start (p :: queue) flying sent made) (n : UInt16) (now : Nat) :
    Journaled start queue (flying ++ [p.launched n now]) ((p.launched n now).dispatch :: sent)
      (made ++ [p.launched n now]) := by
  obtain ⟨gone, rfl, same⟩ := journaled.firsts
  refine journaled.transmit (fun _ member => member) (.inl rfl) ⟨gone ++ [p], by rw [List.append_assoc]; rfl, ?_⟩
  rw [firsts_append, List.map_append, List.map_append, same]
  rfl

theorem Journaled.resend (journaled : Journaled start queue (p :: rest) sent made) (n : UInt16) (now : Nat) :
    Journaled start queue (rest ++ [p.resent n now]) ((p.resent n now).dispatch :: sent) (made ++ [p.resent n now]) := by
  obtain ⟨gone, rfl, same⟩ := journaled.firsts
  have before : p ∈ made := journaled.aboard p List.mem_cons_self
  refine journaled.transmit (fun _ member => List.mem_cons_of_mem _ member) (.inr ⟨p, before, rfl, rfl⟩) ⟨gone, rfl, ?_⟩
  rw [firsts_append, List.map_append, same]
  exact List.append_nil _

theorem Journaled.leave (journaled : Journaled start queue flying sent made) (fewer : ∀ q ∈ rest, q ∈ flying) :
    Journaled start queue rest sent made :=
  { journaled with aboard := fun q member => journaled.aboard q (fewer q member) }

/-! ### Calls -/

theorem launch_journaled {boarding : List Probe} (n : UInt16) (now : Nat)
    (journaled : Journaled start (boarding ++ queue) flying sent made) :
    Journaled start queue (flying ++ launch n now boarding)
      (((launch n now boarding).map Probe.dispatch).reverse ++ sent) (made ++ launch n now boarding) := by
  induction boarding generalizing flying sent made n with
  | nil => simpa using journaled
  | cons p boarding ih =>
    have boarded := ih (n + 1) (journaled.board n now)
    rw [launch_cons, List.map_cons, List.reverse_cons, List.append_assoc]
    simpa only [List.append_assoc, List.singleton_append] using boarded

theorem walk_journaled (pace : Pace) (now : Nat) (w : Walk) {dispatched : List Dispatch}
    (journaled : Journaled start queue w.table (w.resent ++ dispatched) made) :
    Journaled start queue (walk pace now w).table ((walk pace now w).resent ++ dispatched)
      (made ++ resendings pace now w.table w.sequence) := by
  fun_induction walk pace now w generalizing made with
  | case1 resent dropped n => simpa [Walk.table, resendings] using journaled
  | case2 resent dropped n last earlier ih =>
    simpa [Walk.table] using ih (by simpa [Walk.table] using journaled)
  | case3 behind resent dropped n p rest early =>
    simpa [Walk.table, resendings, early] using journaled
  | case4 p rest behind resent dropped n late left ih =>
    have behindAll : (⟨rest, p.resent n now :: behind, ⟨p.target, n⟩ :: resent, dropped, n + 1⟩ : Walk).table =
        rest ++ behind.reverse ++ [p.resent n now] := by
      simp [Walk.table]
    have once := journaled.resend n now
    have again := ih (by rw [behindAll]; exact once)
    rw [behindAll, List.append_assoc made] at again
    show Journaled _ _ _ _ (made ++ resendings pace now (p :: (rest ++ behind.reverse)) n)
    rw [resendings, if_neg late, if_pos left]
    exact again
  | case5 p rest behind resent dropped n late spent ih =>
    have gone := ih (journaled.leave fun q member => List.mem_cons_of_mem _ member)
    show Journaled _ _ _ _ (made ++ resendings pace now (p :: (rest ++ behind.reverse)) n)
    rw [resendings, if_neg late, if_neg spent]
    exact gone

theorem call_journaled {h : History} (c : Call)
    (journaled : Journaled start h.sweep.queue h.sweep.flying h.sent made) :
    Journaled start (h.call c).sweep.queue (h.call c).sweep.flying (h.call c).sent (made ++ c.made h.sweep) := by
  cases c with
  | fill now =>
    have split : h.sweep.boarding ++ (h.call (.fill now)).sweep.queue = h.sweep.queue := List.take_append_drop _ _
    exact launch_journaled h.sweep.nextSequence now (by rwa [split])
  | expire now =>
    have walked := walk_journaled h.sweep.pace now ⟨h.sweep.flying, [], [], [], h.sweep.nextSequence⟩
      (by simpa [Walk.table] using journaled)
    simpa [call, expire, Call.made, Sweep.walked, Walk.table] using walked
  | takeReply k now =>
    simp only [call, Call.made, List.append_nil]
    split
    next => exact journaled
    next reply rest taken =>
      obtain ⟨before, p, after, table, _, _, _, rfl⟩ := takeReply_splits taken
      refine journaled.leave ?_
      intro q member
      rw [table]
      rcases List.mem_append.mp member with front | back
      · exact List.mem_append_left _ front
      · exact List.mem_append_right _ (List.mem_cons_of_mem _ back)

theorem follow_journaled {h : History} (calls : List Call)
    (journaled : Journaled start h.sweep.queue h.sweep.flying h.sent made) :
    Journaled start (h.follow calls).sweep.queue (h.follow calls).sweep.flying (h.follow calls).sent
      (made ++ h.journal calls) := by
  induction calls generalizing h made with
  | nil => simpa [journal, follow] using journaled
  | cons c rest ih =>
    have made := ih (call_journaled c journaled)
    rwa [List.append_assoc] at made

theorem load_journaled (s : Sweep) (records : List Probe) :
    Journaled (s.load records).queue (s.load records).queue [] [] [] where
  sent := rfl
  aboard := nofun
  traced := by
    intro before p after split
    simp at split
  firsts := ⟨[], rfl, rfl⟩

/-- The first transmissions and what is queued behind them are the records in the one stable order of distance, in which
the relays of a city that a monitor probes stand together as the catalog has them. -/
theorem first_transmissions_keep_stable_order :
    (∀ (earlier : Sweep) (records : List Probe) (calls : List Call),
      let loaded : History := { sweep := earlier.load records }
      let order := loaded.sweep.queue
      let h := loaded.follow calls
      let made := loaded.journal calls
      StableOrder records order ∧ (∀ other, StableOrder records other → other = order) ∧
      made.map Probe.dispatch = h.sent.reverse ∧ (∀ p ∈ h.sweep.flying, p ∈ made) ∧ Traced made ∧
      ∃ gone, order = gone ++ h.sweep.queue ∧ (firsts made).map Probe.blank = gone.map Probe.blank) ∧
    ∀ (m : Monitor) (calls : List Call) (before after : List City) (city : City),
      m.catalog.cities = before ++ city :: after →
      let loaded : History := { sweep := m.prepared.sweep }
      ∃ nearer farther,
        (firsts (loaded.journal calls)).map Probe.blank ++ (loaded.follow calls).sweep.queue.map Probe.blank =
          nearer ++ (city.relays.map fun relay =>
            { key := relay.key, country := city.country, city := city.name
              target := relay.address, distance := m.distanceOf city }) ++ farther := by
  have loaded_journaled (earlier : Sweep) (records : List Probe) (calls : List Call) :=
    follow_journaled (h := { sweep := earlier.load records }) calls (load_journaled earlier records)
  constructor
  · intro earlier records calls loaded order h made
    have stable : StableOrder records order := load_stable earlier records
    have journaled : Journaled order h.sweep.queue h.sweep.flying h.sent made := loaded_journaled earlier records calls
    exact ⟨stable, fun other also => stable.unique also, journaled.sent, journaled.aboard,
      journaled.traced, journaled.firsts⟩
  · intro m calls before after city listed loaded
    obtain ⟨nearer, farther, together⟩ := m.city_is_contiguous listed
    obtain ⟨gone, order, same⟩ := (loaded_journaled m.sweep m.roster calls).firsts
    have unsent : (m.probesOf city).map Probe.blank = m.probesOf city := by
      rw [Monitor.probesOf, List.map_map]
      rfl
    refine ⟨nearer.map Probe.blank, farther.map Probe.blank, ?_⟩
    have whole : gone ++ (loaded.follow calls).sweep.queue = nearer ++ m.probesOf city ++ farther :=
      order.symm.trans together
    have blank := congrArg (List.map Probe.blank) whole
    rw [List.map_append, List.map_append, List.map_append, unsent, ← same] at blank
    exact blank

/-- Two relays between two others; without an observer all of them are equally far. -/
def malmo : City :=
  { code := "mma", name := "Malmö", country := "se", place := default
    relays := [⟨"b", .ofOctets 10 0 0 2⟩, ⟨"c", .ofOctets 10 0 0 3⟩] }

def gothenburg : City :=
  { code := "got", name := "Gothenburg", country := "se", place := default, relays := [⟨"a", .ofOctets 10 0 0 1⟩] }

def stockholm : City :=
  { code := "sto", name := "Stockholm", country := "se", place := default, relays := [⟨"d", .ofOctets 10 0 0 4⟩] }

/-- The first relay answers after a retry, the next ones at once, while the last one still waits. -/
theorem malmo_stays_together :
    let m := Monitor.ofConfig { maxParallel := 1 } ⟨[⟨"se", "Sweden", [gothenburg, malmo, stockholm]⟩]⟩
    let loaded : History := { sweep := m.prepared.sweep }
    let calls : List Call := [.fill 0, .expire 5000, .takeReply 1 5001, .fill 5001, .takeReply 2 5002, .fill 5002]
    m.catalog.cities = [gothenburg] ++ malmo :: [stockholm] ∧
    (loaded.journal calls).map (fun p => (p.key, p.sequence, p.retries)) =
      [("a", 0, 0), ("a", 1, 1), ("b", 2, 0), ("c", 3, 0)] ∧
    (loaded.follow calls).sweep.queue.map (·.key) = ["d"] ∧
    ∃ nearer farther,
      (firsts (loaded.journal calls)).map Probe.blank ++ (loaded.follow calls).sweep.queue.map Probe.blank =
        nearer ++
          [{ key := "b", country := "se", city := "Malmö", target := .ofOctets 10 0 0 2, distance := .ofFloat 0.0 },
            { key := "c", country := "se", city := "Malmö", target := .ofOctets 10 0 0 3, distance := .ofFloat 0.0 }] ++
          farther := by
  intro m loaded calls
  have listed : m.catalog.cities = [gothenburg] ++ malmo :: [stockholm] := rfl
  let probe (key city : String) (last : Nat) : Probe :=
    { key, country := "se", city, target := .ofOctets 10 0 0 last, distance := .ofFloat 0.0 }
  let a := probe "a" "Gothenburg" 1
  let others := [probe "b" "Malmö" 2, probe "c" "Malmö" 3, probe "d" "Stockholm" 4]
  have start : loaded = { sweep := { pace := m.sweep.pace, queue := a :: others, total := 4 } } := by
    have roster : m.roster = a :: others := rfl
    have near : (a :: others).Pairwise fun p q => p.distance.le q.distance := by
      simp [a, others, probe, Distance.le_refl]
    have prepared : m.prepared.sweep = m.sweep.load m.roster := rfl
    rw [roster, load_of_ordered m.sweep near] at prepared
    exact congrArg (History.mk · [] [] []) prepared
  let first := a.launched 0 0
  let second := first.resent 1 5000
  have made : resendings m.sweep.pace 5000 [first] 1 = [second] := by
    rw [resendings, if_neg (by decide), if_pos (by decide), List.nil_append, resendings, if_pos (by decide)]
  have walked : walk m.sweep.pace 5000 ⟨[first], [], [], [], 1⟩ = ⟨[second], [], [⟨a.target, 1⟩], [], 2⟩ := by
    rw [walk, if_neg (by decide), if_pos (by decide), walk, List.reverse_singleton, walk, if_pos (by decide)]
    rfl
  let flown (queue flying : List Probe) (n : UInt16) (sent : List Dispatch) : History :=
    { sweep := ⟨m.sweep.pace, queue, flying, n, 4⟩, sent }
  have filled : loaded.call (.fill 0) = flown others [first] 1 [⟨a.target, 0⟩] := by
    rw [start]
    rfl
  have expired : (flown others [first] 1 [⟨a.target, 0⟩]).call (.expire 5000) =
      flown others [second] 2 [⟨a.target, 1⟩, ⟨a.target, 0⟩] := by
    simp [flown, call, expire, Sweep.walked, walked, Walk.table]
  let rest : List Call := [.takeReply 1 5001, .fill 5001, .takeReply 2 5002, .fill 5002]
  have journal : loaded.journal calls =
      first :: second :: (flown others [second] 2 [⟨a.target, 1⟩, ⟨a.target, 0⟩]).journal rest := by
    show loaded.journal (.fill 0 :: .expire 5000 :: rest) = _
    have boarded : Call.made loaded.sweep (.fill 0) = [first] := by
      rw [start]
      rfl
    rw [History.journal, boarded, filled, History.journal, expired]
    exact congrArg (first :: · ++ _) made
  have followed : loaded.follow calls =
      (flown others [second] 2 [⟨a.target, 1⟩, ⟨a.target, 0⟩]).follow rest := by
    show loaded.follow (.fill 0 :: .expire 5000 :: rest) = _
    rw [follow, List.foldl_cons, List.foldl_cons, filled, expired]
    rfl
  refine ⟨listed, ?_, ?_, ?_⟩
  · rw [journal]
    rfl
  · rw [followed]
    rfl
  · exact first_transmissions_keep_stable_order.2 m calls _ _ _ listed

end History

end RelayQuality.Sweep
