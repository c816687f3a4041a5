import PipelineGraph.Marquee
import PipelineGraph.Proofs.FloatOrder
import PipelineGraph.Proofs.Notification

namespace PipelineGraph

open Number

namespace Point

variable {p a c : Point} {q : Point × Point}

def diagonals (a c : Point) : List (Point × Point) :=
  [(a, c), (c, a), (⟨a.x, c.y⟩, ⟨c.x, a.y⟩), (⟨c.x, a.y⟩, ⟨a.x, c.y⟩)]

theorem numbers_of_mem_diagonals (ha : a.IsNumber) (hc : c.IsNumber) (hq : q ∈ diagonals a c) :
    q.1.IsNumber ∧ q.2.IsNumber := by
  simp only [diagonals, List.mem_cons, List.not_mem_nil, or_false] at hq
  rcases hq with rfl | rfl | rfl | rfl
  · exact ⟨ha, hc⟩
  · exact ⟨hc, ha⟩
  · exact ⟨⟨ha.x, hc.y⟩, ⟨hc.x, ha.y⟩⟩
  · exact ⟨⟨hc.x, ha.y⟩, ⟨ha.x, hc.y⟩⟩

theorem inside_iff_of_mem_diagonals (hq : q ∈ diagonals a c) :
    p.Inside q.1 q.2 ↔ p.Inside a c := by
  have hx : Between c.x a.x p.x ↔ Between a.x c.x p.x := between_comm
  have hy : Between c.y a.y p.y ↔ Between a.y c.y p.y := between_comm
  simp only [diagonals, List.mem_cons, List.not_mem_nil, or_false] at hq
  rcases hq with rfl | rfl | rfl | rfl
  · rfl
  · simp only [inside_iff, hx, hy]
  · simp only [inside_iff, hy]
  · simp only [inside_iff, hx]

end Point

namespace Marquee

variable {a c : Point} {r r' : Rect} {height : Float32} {extend : Bool} {g : Graph}
  {bounds : NodeBounds} {s : Selection} {m : Marquee}

theorem foldl_update_idle (way : List Point) : way.foldl update idle = idle := by
  induction way with
  | nil => rfl
  | cons p way ih => exact ih

theorem update_foldl_update (way : List Point) (a p c : Point) :
    (way.foldl update (selecting a p)).update c = selecting a c := by
  induction way generalizing p with
  | nil => rfl
  | cons q way ih => exact ih q

def drawn (a c : Point) (way : List Point) : Marquee := (way ++ [c]).foldl update (begin a)

theorem rect?_drawn (a c : Point) (way : List Point) :
    (drawn a c way).rect? = some (.spanning a c) := by
  rw [drawn, List.foldl_append, List.foldl_cons, List.foldl_nil, begin, update_foldl_update, rect?]

theorem enclosesNode_iff (ha : a.IsNumber) (hc : c.IsNumber) {n : Node} :
    enclosesNode (.spanning a c) height bounds n = true ↔
      ((bounds n.id).getD (approximateBounds n height)).min.Inside a c ∧
        ((bounds n.id).getD (approximateBounds n height)).max.Inside a c := by
  rw [enclosesNode, Rect.encloses, Bool.and_eq_true, Rect.contains_spanning_iff ha hc,
    Rect.contains_spanning_iff ha hc]

theorem enclosesEdge_iff (ha : a.IsNumber) (hc : c.IsNumber) {x : Edge} :
    enclosesEdge (.spanning a c) x = true ↔ x.drawnFrom.Inside a c ∧ x.drawnTo.Inside a c := by
  rw [enclosesEdge, Bool.and_eq_true, Rect.contains_spanning_iff ha hc,
    Rect.contains_spanning_iff ha hc]

section finish

variable (hm : m.rect? = some r)
include hm

theorem mem_nodes_finish {id : NodeId} :
    id ∈ (m.finish height extend g bounds s).2.2.current.nodes ↔
      id ∈ (if extend then s.current else {}).nodes ∨
        ∃ n ∈ g.nodeList, enclosesNode r height bounds n = true ∧ n.id = id := by
  simp only [finish, hm, Selection.current_batch, List.foldl_cons, List.foldl_nil, Selected.apply,
    if_true, Selected.mem_addAll, List.mem_map, List.mem_filter, and_assoc]

theorem mem_edges_finish {id : EdgeId} :
    id ∈ (m.finish height extend g bounds s).2.2.current.edges ↔
      id ∈ (if extend then s.current else {}).edges ∨
        ∃ x ∈ g.edgeList, enclosesEdge r x = true ∧ x.id = id := by
  simp only [finish, hm, Selection.current_batch, List.foldl_cons, List.foldl_nil, Selected.apply,
    if_true, Selected.mem_addAll, List.mem_map, List.mem_filter, and_assoc]

theorem finish_congr {m' : Marquee} (hm' : m'.rect? = some r')
    (h : ∀ p, r'.contains p = r.contains p) :
    m'.finish height extend g bounds s = m.finish height extend g bounds s := by
  have hnode : enclosesNode r' height bounds = enclosesNode r height bounds := by
    funext n
    simp only [enclosesNode, Rect.encloses, h]
  have hedge : enclosesEdge r' = enclosesEdge r := by
    funext x
    simp only [enclosesEdge, h]
  simp only [finish, hm, hm', hnode, hedge]

theorem finish_mono {m' : Marquee} (hm' : m'.rect? = some r')
    (h : ∀ p, r.contains p = true → r'.contains p = true) :
    (∀ id ∈ (m.finish height extend g bounds s).2.2.current.nodes,
      id ∈ (m'.finish height extend g bounds s).2.2.current.nodes) ∧
    ∀ id ∈ (m.finish height extend g bounds s).2.2.current.edges,
      id ∈ (m'.finish height extend g bounds s).2.2.current.edges := by
  constructor
  · intro id
    rw [mem_nodes_finish hm, mem_nodes_finish hm']
    refine Or.imp_right ?_
    rintro ⟨n, hn, henclosed, rfl⟩
    refine ⟨n, hn, ?_, rfl⟩
    rw [enclosesNode, Rect.encloses, Bool.and_eq_true] at henclosed ⊢
    exact henclosed.imp (h _) (h _)
  · intro id
    rw [mem_edges_finish hm, mem_edges_finish hm']
    refine Or.imp_right ?_
    rintro ⟨x, hx, henclosed, rfl⟩
    refine ⟨x, hx, ?_, rfl⟩
    rw [enclosesEdge, Bool.and_eq_true] at henclosed ⊢
    exact henclosed.imp (h _) (h _)

theorem selection_finish :
    let t := (m.finish height extend g bounds s).2.2
    (s.Quiet → t = { s with current := t.current }.announce) ∧
      (0 < s.depth → t = { s with current := t.current, pending := true }) := by
  let nodes : SelectionChange :=
    .selectNodes ((g.nodeList.filter (enclosesNode r height bounds)).map (·.id)) extend
  let edges : SelectionChange :=
    .selectEdges ((g.edgeList.filter (enclosesEdge r)).map (·.id)) true
  let script : SelectionScript := .batch (.change nodes (.change edges .done)) .done
  have hrun : (m.finish height extend g bounds s).2.2 = script.run s := by
    simp only [finish, hm]
    rfl
  rw [hrun]
  constructor
  · intro hquiet
    have hcommit : script.run s = s.commit [nodes, edges] := hquiet.run_batch _
    rw [hcommit]
    rfl
  · intro hdepth
    rw [Selection.run_of_open script hdepth]
    simp [script, SelectionScript.changes, SelectionScript.newcomers]

end finish

/-- A marquee selects what lies entirely inside, on top of what was selected before if it extends
that, and the observers hear of it once. It makes no difference how the pointer got to the last
corner and at which of the corners it began, and a larger marquee selects no less. Where none is in
progress nothing happens. -/
theorem finish_exact (ha : a.IsNumber) (hc : c.IsNumber) (g : Graph) (bounds : NodeBounds)
    (height : Float32) (extend : Bool) (s : Selection) :
    let finish (m : Marquee) : Bool × Marquee × Selection := m.finish height extend g bounds s
    let selected (m : Marquee) : Selected := (finish m).2.2.current
    let covered (n : Node) : Rect := (bounds n.id).getD ⟨n.position, n.position + ⟨n.width, height⟩⟩
    let prior : Selected := if extend then s.current else {}
    (∀ way, ∃ t, finish (drawn a c way) = (true, idle, t) ∧
      (∀ id, id ∈ t.current.nodes ↔ id ∈ prior.nodes ∨
        ∃ n ∈ g.nodeList, ((covered n).min.Inside a c ∧ (covered n).max.Inside a c) ∧ n.id = id) ∧
      (∀ id, id ∈ t.current.edges ↔ id ∈ prior.edges ∨
        ∃ x ∈ g.edgeList, (x.drawnFrom.Inside a c ∧ x.drawnTo.Inside a c) ∧ x.id = id) ∧
      (s.Quiet → t = { s with current := t.current }.announce) ∧
      (0 < s.depth → t = { s with current := t.current, pending := true })) ∧
    (∀ way way', ∀ q ∈ Point.diagonals a c, finish (drawn q.1 q.2 way') = finish (drawn a c way)) ∧
    (∀ way way' a' c', a.Inside a' c' → c.Inside a' c' →
      (∀ id ∈ (selected (drawn a c way)).nodes, id ∈ (selected (drawn a' c' way')).nodes) ∧
      ∀ id ∈ (selected (drawn a c way)).edges, id ∈ (selected (drawn a' c' way')).edges) ∧
    ∀ way : List Point, finish (way.foldl update idle) = (false, idle, s) ∧
      ∀ m : Marquee, finish (way.foldl update m.cancel) = (false, idle, s) := by
  intro finish selected covered prior
  refine ⟨?_, ?_, ?_, ?_⟩
  · intro way
    have hrect := rect?_drawn a c way
    refine ⟨(finish (drawn a c way)).2.2, ?_, ?_, ?_, selection_finish hrect⟩
    · simp only [finish, Marquee.finish, hrect]
    · intro id
      simp only [finish, mem_nodes_finish hrect, enclosesNode_iff ha hc]
      rfl
    · intro id
      simp only [finish, mem_edges_finish hrect, enclosesEdge_iff ha hc]
      rfl
  · intro way way' q hq
    obtain ⟨hq₁, hq₂⟩ := Point.numbers_of_mem_diagonals ha hc hq
    refine finish_congr (rect?_drawn a c way) (rect?_drawn q.1 q.2 way') fun p ↦ ?_
    rw [Bool.eq_iff_iff, Rect.contains_spanning_iff hq₁ hq₂, Rect.contains_spanning_iff ha hc,
      Point.inside_iff_of_mem_diagonals hq]
  · intro way way' a' c' ha' hc'
    obtain ⟨hnumber, hnumber'⟩ := ha'.numbers
    refine finish_mono (rect?_drawn a c way) (rect?_drawn a' c' way') fun p hp ↦ ?_
    rw [Rect.contains_spanning_iff ha hc] at hp
    exact (Rect.contains_spanning_iff hnumber hnumber').2 (ha'.trans hc' hp)
  · intro way
    simp only [cancel, foldl_update_idle]
    exact ⟨rfl, fun _ ↦ rfl⟩

def scattered : Graph :=
  let (near, ids) := Node.newStart "near" (.ofStream .ofNat)
  let (far, ids) := Node.newStart "far" ids
  let (turned, ids) := Node.newStart "turned" ids
  let (shapeless, _) := Node.newStart "shapeless" ids
  let nodes : List Node :=
    [{ near with position := ⟨10, 10⟩, width := 100 },
      { far with position := ⟨500, 500⟩, width := 100 },
      { turned with position := ⟨50, 50⟩, width := -20 },
      { shapeless with position := ⟨50, 50⟩, width := 0 / 0 }]
  let source : Endpoint := ⟨near.id, near.ports.controlOutput.id⟩
  let target : Endpoint := ⟨far.id, far.ports.controlInput.id⟩
  ((nodes.foldl Graph.addNode .empty).addEdge
    ⟨⟨.ofNat 100⟩, .control, source, target, ⟨1, 1⟩, ⟨120, 0⟩⟩).addEdge
    ⟨⟨.ofNat 101⟩, .control, source, target, ⟨1, 1⟩, ⟨500, 500⟩⟩

def farMeasured : NodeBounds := fun id ↦
  if id = ⟨.ofNat 3⟩ then some ⟨⟨30, 30⟩, ⟨20, 40⟩⟩ else none

theorem finish_exact_scattered :
    let s : Selection := { current := ⟨[], [⟨.ofNat 200⟩]⟩, observers := 1 }
    let a : Point := ⟨120, 0⟩
    let c : Point := ⟨0, 120⟩
    let finish (m : Marquee) := m.finish 60 true scattered farMeasured s
    let t := (finish (drawn a c [⟨5, 5⟩, ⟨900, 900⟩])).2.2
    (a.IsNumber ∧ c.IsNumber ∧ s.Quiet ∧ 0 < s.openBatch.depth) ∧
    t.current = ⟨[⟨.ofNat 0⟩, ⟨.ofNat 3⟩, ⟨.ofNat 6⟩], [⟨.ofNat 200⟩, ⟨.ofNat 100⟩]⟩ ∧
    t.notices = [⟨0, t.current⟩] ∧
    finish (drawn ⟨0, 0⟩ ⟨120, 120⟩ []) = (true, idle, t) ∧
    (∀ id ∈ t.current.nodes, id ∈ (finish (drawn ⟨120, -1⟩ ⟨-1, 900⟩ [])).2.2.current.nodes) ∧
    finish ((drawn a c []).cancel.update ⟨900, 900⟩) = (false, idle, s) ∧
    ∃ t, (drawn a c []).finish 60 true scattered farMeasured s.openBatch = (true, idle, t) ∧
      t.pending = true ∧ t.notices = [] := by
  intro s a c finish t
  have ha : a.IsNumber := by decide +kernel
  have hc : c.IsNumber := by decide +kernel
  have hquiet : s.Quiet := ⟨rfl, rfl⟩
  have hopen : 0 < s.openBatch.depth := by decide
  obtain ⟨hdrawn, hdiagonal, hlarger, hidle⟩ := finish_exact ha hc scattered farMeasured 60 true s
  obtain ⟨hwithin, -⟩ := finish_exact ha hc scattered farMeasured 60 true s.openBatch
  obtain ⟨t', ht, -, -, htold, -⟩ := hdrawn [⟨5, 5⟩, ⟨900, 900⟩]
  obtain ⟨u, hu, -, -, -, hmarked⟩ := hwithin []
  have hsame : t = t' := congrArg (·.2.2) ht
  have hkept := hlarger [⟨5, 5⟩, ⟨900, 900⟩] [] ⟨120, -1⟩ ⟨-1, 900⟩ (by decide +kernel)
    (by decide +kernel)
  refine ⟨⟨ha, hc, hquiet, hopen⟩, by decide +kernel, ?_, ?_, hkept.1,
    (hidle [⟨900, 900⟩]).2 (drawn a c []), u, hu, ?_, ?_⟩
  · rw [hsame, htold hquiet]
    rfl
  · rw [hsame, ← ht]
    exact hdiagonal [⟨5, 5⟩, ⟨900, 900⟩] [] (⟨0, 0⟩, ⟨120, 120⟩) (by simp [Point.diagonals, a, c])
  · rw [hmarked hopen]
  · rw [hmarked hopen]
    rfl

end Marquee

end PipelineGraph
