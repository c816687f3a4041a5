import Mathlib.Order.Bounds.Basic
import PipelineGraph.Proofs.Integrity
import PipelineGraph.Proofs.ReportDependence

namespace PipelineGraph.Graph

/-- The nodes met so far, and those of them whose control edges are still to be followed. -/
structure Search where
  met : List NodeId := []
  queue : List NodeId := []

namespace Search

def meet (s : Search) (n : NodeId) : Search :=
  if n ∈ s.met then s else ⟨s.met ++ [n], s.queue ++ [n]⟩

def start (g : Graph) : Search := g.startIds.foldl meet {}

def advance (g : Graph) (s : Search) : Option (NodeId × Search) :=
  match s.queue with
  | [] => none
  | n :: rest => some (n, (targetsOf g.controlArcs n).foldl meet { s with queue := rest })

/-- From the first state the search comes to the second while it takes these nodes off the queue. -/
inductive Run (g : Graph) : Search → List NodeId → Search → Prop
  | refl (s : Search) : Run g s [] s
  | step {s t u : Search} {n : NodeId} {ns : List NodeId} (h : s.advance g = some (n, t))
      (rest : Run g t ns u) : Run g s (n :: ns) u

end Search

variable {g h : Graph} {s t : Search} {taken ns : List NodeId} {n : NodeId}

theorem newOnes_congr {known known' : List NodeId} (hknown : ∀ n, n ∈ known ↔ n ∈ known')
    (l : List NodeId) : newOnes known l = newOnes known' l := by
  induction l generalizing known known' with
  | nil => rfl
  | cons n l ih =>
    simp only [newOnes, hknown n]
    split
    · exact ih hknown
    · refine congrArg (n :: ·) (ih fun m ↦ ?_)
      rw [List.mem_cons, List.mem_cons, hknown m]

theorem prefix_explore {arcs : List (NodeId × NodeId)} {reached pending : List NodeId} :
    reached <+: explore arcs reached pending := by
  fun_induction explore arcs reached pending with
  | case1 => exact List.prefix_rfl
  | case2 arcs reached n rest fresh ih => exact (List.prefix_append reached fresh).trans ih

namespace Search

theorem foldl_meet (s : Search) (l : List NodeId) :
    l.foldl meet s = ⟨s.met ++ newOnes s.met l, s.queue ++ newOnes s.met l⟩ := by
  induction l generalizing s with
  | nil => simp [newOnes]
  | cons n l ih =>
    rw [List.foldl_cons, ih, meet, newOnes]
    split
    · rfl
    · have hmet : newOnes (s.met ++ [n]) l = newOnes (n :: s.met) l :=
        newOnes_congr (fun m ↦ by simp [or_comm]) l
      simp [hmet]

/-- What is met has been taken off the queue or is still in it, each node once, and following the
arcs of the nodes that have not been taken gives all that can be reached. -/
structure Valid (g : Graph) (taken : List NodeId) (s : Search) : Prop where
  met_eq : s.met = taken ++ s.queue
  nodup : s.met.Nodup
  explore_eq : explore (g.controlArcs.filter fun a ↦ a.1 ∉ taken) s.met s.queue = g.reachable

theorem valid_start (g : Graph) : Valid g [] (start g) := by
  have hstart : start g = ⟨newOnes [] g.startIds, newOnes [] g.startIds⟩ := foldl_meet {} _
  rw [hstart]
  refine ⟨rfl, nodup_newOnes _ _, ?_⟩
  have hall : (g.controlArcs.filter fun a ↦ a.1 ∉ ([] : List NodeId)) = g.controlArcs := by simp
  rw [hall, reachable]

theorem Valid.advance (hs : Valid g taken s) (hstep : s.advance g = some (n, t)) :
    Valid g (taken ++ [n]) t := by
  obtain ⟨met, queue⟩ := s
  cases queue with
  | nil => cases hstep
  | cons m rest =>
    obtain ⟨rfl, rfl⟩ := Prod.mk.inj (Option.some.inj hstep)
    have hmet : met = taken ++ m :: rest := hs.met_eq
    have hnodup : met.Nodup := hs.nodup
    have hexplore := hs.explore_eq
    have hnew : m ∉ taken := by
      intro htaken
      rw [hmet] at hnodup
      exact (List.nodup_append.1 hnodup).2.2 m htaken m List.mem_cons_self rfl
    have htargets : targetsOf (g.controlArcs.filter fun a ↦ a.1 ∉ taken) m =
        targetsOf g.controlArcs m := by
      rw [targetsOf, List.filter_filter, targetsOf]
      refine congrArg _ (List.filter_congr fun a _ ↦ ?_)
      by_cases ha : a.1 = m
      · simp [ha, hnew]
      · simp [ha]
    have hleft : arcsNotFrom (g.controlArcs.filter fun a ↦ a.1 ∉ taken) m =
        g.controlArcs.filter fun a ↦ a.1 ∉ taken ++ [m] := by
      rw [arcsNotFrom, List.filter_filter]
      refine List.filter_congr fun a _ ↦ ?_
      simp [and_comm]
    rw [explore, htargets, hleft] at hexplore
    rw [foldl_meet]
    refine ⟨?_, ?_, hexplore⟩
    · simp [hmet]
    · refine List.nodup_append.2 ⟨hnodup, nodup_newOnes _ _, fun a ha b hb hab ↦ ?_⟩
      exact (mem_newOnes.1 hb).2 (hab ▸ ha)

theorem Valid.run (hs : Valid g taken s) (hrun : Run g s ns t) : Valid g (taken ++ ns) t := by
  induction hrun generalizing taken with
  | refl => rwa [List.append_nil]
  | step hstep _ ih =>
    have hlater := ih (hs.advance hstep)
    rwa [List.append_assoc, List.singleton_append] at hlater

theorem Valid.length_le (hs : Valid g taken s) :
    taken.length + s.queue.length ≤ g.reachable.length := by
  have hprefix : s.met <+: g.reachable := hs.explore_eq ▸ prefix_explore
  rw [← List.length_append, ← hs.met_eq]
  exact hprefix.length_le

theorem Valid.exists_run (hs : Valid g taken s) : ∃ ns t, Run g s ns t ∧ t.queue = [] := by
  -- Every step takes one more node, and there are no more of them than can be reached.
  induction hleft : g.reachable.length - taken.length using Nat.strong_induction_on
    generalizing taken s with
  | _ left ih =>
    cases hqueue : s.queue with
    | nil => exact ⟨[], s, .refl s, hqueue⟩
    | cons n rest =>
      obtain ⟨t, hstep⟩ : ∃ t, s.advance g = some (n, t) := ⟨_, by rw [Search.advance, hqueue]⟩
      have hlength := hs.length_le
      rw [hqueue, List.length_cons] at hlength
      have hless : g.reachable.length - (taken ++ [n]).length < left := by
        rw [List.length_append, List.length_singleton]
        omega
      obtain ⟨ns, u, hrun, hu⟩ := ih _ hless (hs.advance hstep) rfl
      exact ⟨n :: ns, u, .step hstep hrun, hu⟩

/-- When the queue is empty, all that can be reached has been met, in that order. -/
theorem Valid.eq_reachable (hs : Valid g taken s) (hqueue : s.queue = []) :
    s.met = g.reachable ∧ taken = g.reachable := by
  have hmet : s.met = g.reachable := by
    rw [← hs.explore_eq, hqueue, explore]
  have htaken := hs.met_eq
  rw [hqueue, List.append_nil] at htaken
  exact ⟨hmet, htaken ▸ hmet⟩

end Search

/-- The start nodes are in the set, and control edges do not lead out of it. -/
structure FlowClosed (g : Graph) (nodes : Set NodeId) : Prop where
  starts : ∀ n ∈ g.nodeList, n.isStart = true → n.id ∈ nodes
  edges : ∀ e ∈ g.edgeList, e.layer = .control → e.source.node ∈ nodes → e.target.node ∈ nodes

theorem FlowClosed.of_onControlPath {nodes : Set NodeId} (hn : g.FlowClosed nodes)
    (h : g.OnControlPath n) : n ∈ nodes := by
  obtain ⟨start, hstart, his, hpath⟩ := h
  induction hpath with
  | refl => exact hn.starts start hstart his
  | step _ arc ih =>
    obtain ⟨e, he, hlayer, rfl, rfl⟩ := mem_controlArcs.1 arc
    exact hn.edges e he hlayer ih

theorem isLeast_reachable (g : Graph) :
    IsLeast {nodes | g.FlowClosed nodes} {n | n ∈ g.reachable} := by
  refine ⟨⟨fun n hn hstart ↦ ?_, fun e he hlayer hsource ↦ ?_⟩, fun nodes hnodes n hn ↦ ?_⟩
  · exact mem_reachable.2 ⟨n, hn, hstart, .refl _⟩
  · have harc := mem_controlArcs.2 ⟨e, he, hlayer, rfl, rfl⟩
    exact mem_reachable.2 ((mem_reachable.1 hsource).step harc)
  · exact hnodes.of_onControlPath (mem_reachable.1 hn)

theorem flowClosed_nodes (hg : g.Closed) : g.FlowClosed {n | n ∈ g.nodes} where
  starts n hn _ := mem_nodes_iff.2 ⟨n, hn, rfl⟩
  edges e he _ _ := (hg e he).2

theorem reachable_congr (hnodes : h.nodeList = g.nodeList)
    (hcontrol : (h.edgeList.filter fun e ↦ e.layer = .control) =
      g.edgeList.filter fun e ↦ e.layer = .control) : h.reachable = g.reachable := by
  rw [reachable, reachable, controlArcs, controlArcs, startIds, startIds, hnodes, hcontrol]

/-- The search comes to an end, and till then every node is queued at most once. What it has met
then are the start nodes and all ends of paths of control edges from them, that is the least set
with the start nodes that control edges do not lead out of. Data edges make no difference, and
where edges end on nodes only nodes are reached. -/
theorem search_exact (g : Graph) :
    (∀ ns s, Search.Run g (.start g) ns s →
      s.met = ns ++ s.queue ∧ s.met.Nodup ∧ ns.length ≤ g.reachable.length) ∧
    (∃ s, Search.Run g (.start g) g.reachable s ∧ s.queue = [] ∧ s.met = g.reachable) ∧
    (∀ n, n ∈ g.reachable ↔ ∃ start ∈ g.nodeList, start.isStart ∧ g.ControlPath start.id n) ∧
    IsLeast {nodes | g.FlowClosed nodes} {n | n ∈ g.reachable} ∧
    (∀ h : Graph, h.nodeList = g.nodeList →
      ((h.edgeList.filter fun e ↦ e.layer = .control) =
        g.edgeList.filter fun e ↦ e.layer = .control) → h.reachable = g.reachable) ∧
    (g.Closed → ∀ n ∈ g.reachable, n ∈ g.nodes) := by
  refine ⟨fun ns s hrun ↦ ?_, ?_, fun n ↦ mem_reachable, isLeast_reachable g,
    fun h ↦ reachable_congr, fun hg n hn ↦ ?_⟩
  · have hs := (Search.valid_start g).run hrun
    exact ⟨hs.met_eq, hs.nodup, Nat.le_of_add_right_le hs.length_le⟩
  · obtain ⟨ns, s, hrun, hqueue⟩ := (Search.valid_start g).exists_run
    obtain ⟨hmet, htaken⟩ := ((Search.valid_start g).run hrun).eq_reachable hqueue
    rw [List.nil_append] at htaken
    exact ⟨s, htaken ▸ hrun, hqueue, hmet⟩
  · exact (flowClosed_nodes hg).of_onControlPath (mem_reachable.1 hn)

/-- Two calls between which control flow goes round and round, twice on the way there, and a third
one that no control edge leads to. -/
def roundTrip : Snapshot :=
  let (start, ids) := Node.newStart "Start" (.ofStream .ofNat)
  let (first, ids) := Node.newFunction ⟨"f", .empty, .ofList [("x", .int32)]⟩ "f" ids
  let (second, ids) := Node.newFunction ⟨"g", .empty, .empty⟩ "g" ids
  let (third, _) := Node.newFunction ⟨"h", .ofList [("x", .int32)], .empty⟩ "h" ids
  let arc (id : Nat) (m n : Node) : Edge :=
    { id := ⟨.ofNat id⟩
      layer := .control
      source := ⟨m.id, m.ports.controlOutput.id⟩
      target := ⟨n.id, n.ports.controlInput.id⟩ }
  ⟨[third, start, second, first],
    [arc 100 start first, arc 101 first second, arc 102 first second, arc 103 second first]⟩

def supply : Edge :=
  { id := ⟨.ofNat 104⟩
    layer := .data
    source := ⟨⟨.ofNat 3⟩, ⟨.ofNat 6⟩⟩
    target := ⟨⟨.ofNat 10⟩, ⟨.ofNat 13⟩⟩ }

theorem search_exact_roundTrip :
    let g := ofSnapshot roundTrip
    g.Closed ∧ g.edgeList.length = 4 ∧ g.accepts supply = true ∧
    g.reachable = [⟨.ofNat 0⟩, ⟨.ofNat 3⟩, ⟨.ofNat 7⟩] ∧
    (∀ n ∈ g.reachable, n ∈ g.nodes) ∧ (g.addEdge supply).reachable = g.reachable ∧
    ∃ s, Search.Run g (.start g) g.reachable s ∧ s.met = g.reachable ++ s.queue ∧ s.met.Nodup := by
  intro g
  have hclosed : g.Closed := (wellFormed_ofSnapshot roundTrip).closed
  have hnew : supply.id ∉ g.edges := by decide +kernel
  have hcontrol : ((g.addEdge supply).edgeList.filter fun e ↦ e.layer = .control) =
      g.edgeList.filter fun e ↦ e.layer = .control := by
    rw [edgeList_addEdge hnew, List.filter_append]
    exact List.append_nil _
  obtain ⟨hruns, ⟨s, hrun, -⟩, -, -, hdata, hnodes⟩ := search_exact g
  obtain ⟨hmet, hnodup, -⟩ := hruns g.reachable s hrun
  exact ⟨hclosed, by decide +kernel, by decide +kernel, by decide +kernel, hnodes hclosed,
    hdata _ rfl hcontrol, s, hrun, hmet, hnodup⟩

end PipelineGraph.Graph
