import SparkLog.Proofs.Plan.Rooted

/-!
# Reuse loses no operator

An exchange that is found again is not drawn again, and neither is anything below it. No operator
is missed in the graph for that: the one that was drawn looks the same. What plans look like is a
parameter, because a signature does not tell all of it (`SignatureTells`). While the inputs of an
exchange are drawn, the exchange is remembered although they are not all there; it is not found
then, since it is larger than they are. So `Draft.Ready` only asks for the exchanges up to a size.
-/

namespace SparkLog

/-- The declared fields of a metric. -/
def PlanMetric.declared (metric : PlanMetric) : String × Int × String :=
  (metric.name, metric.accumulator, metric.type)

namespace PlanTree

open PlanGraph (Drawing)

/-- A plan has another one as an input, as an input of an input, and so on; or it is that plan. -/
def HasPart : PlanTree → PlanTree → Prop :=
  Relation.ReflTransGen fun plan input => input ∈ plan.children

/-- Of the plans that are known, the inputs are known, and those with the same signature look the
same. -/
structure SignatureTells {β : Type} (known : PlanTree → Prop)
    (look : String × String × List PlanMetric → β) : Prop where
  inputs : ∀ {plan input}, known plan → input ∈ plan.children → known input
  looks : ∀ {plan other}, known plan → known other → plan.signature = other.signature →
    look plan.face = look other.face

variable {β : Type} {known : PlanTree → Prop} {look : String × String × List PlanMetric → β}

namespace SignatureTells

mutual

/-- Plans with the same signature show operators that look the same. -/
theorem operators_eq (h : SignatureTells known look) :
    ∀ {plan other : PlanTree}, known plan → known other → plan.signature = other.signature →
      (plan.operators true).map (look ∘ face) = (other.operators true).map (look ∘ face)
  | ⟨name, description, [], metadata, metrics, extras⟩, other, hplan, hother, hsignature => by
      obtain ⟨-, -, hchildren⟩ := eq_of_signature_eq hsignature
      have hnone : (⟨name, description, [], metadata, metrics, extras⟩ : PlanTree).children = [] :=
        rfl
      have hleaf : other.children = [] := List.map_eq_nil_iff.mp hchildren.symm
      have hlook := h.looks hplan hother hsignature
      rw [operators_operator (.inl hnone), operators_operator (.inl hleaf), hleaf, List.map_cons,
        List.map_cons, Function.comp_apply, hlook]
      rfl
  | ⟨name, description, first :: rest, metadata, metrics, extras⟩, other, hplan, hother,
      hsignature => by
      obtain ⟨hname, -, hchildren⟩ := eq_of_signature_eq hsignature
      obtain ⟨first', rest', hinputs, hfirst, hrest⟩ := List.map_eq_cons_iff.mp hchildren.symm
      have hsome : (⟨name, description, first :: rest, metadata, metrics, extras⟩ :
          PlanTree).children = first :: rest := rfl
      have hlook := h.looks hplan hother hsignature
      have hmem : ∀ {input}, input ∈ first' :: rest' → known input :=
        fun hmem => h.inputs hother (hinputs ▸ hmem)
      have hsame := h.operators_eq (h.inputs hplan List.mem_cons_self) (hmem List.mem_cons_self)
        hfirst.symm
      cases hdrawing : Drawing.ofName name with
      | cluster =>
          rw [operators_cluster hsome hdrawing, operators_cluster hinputs (hname ▸ hdrawing),
            List.map_cons, List.map_cons, hsame, Function.comp_apply, hlook]
          rfl
      | passed =>
          rw [operators_wrapper hsome (.inl hdrawing),
            operators_wrapper hinputs (.inl (hname ▸ hdrawing)), hsame]
      | stage =>
          rw [operators_wrapper hsome (.inr hdrawing),
            operators_wrapper hinputs (.inr (hname ▸ hdrawing)), hsame]
      | reuse =>
          rw [operators_followed hsome hdrawing,
            operators_followed hinputs (hname ▸ hdrawing), hsame]
      | node =>
          have hothers := h.operators_of_all_eq
            (fun input hin => h.inputs hplan (List.mem_cons_of_mem _ hin))
            (fun input hin => hmem (List.mem_cons_of_mem _ hin)) hrest.symm
          rw [operators_node hsome hdrawing, operators_node hinputs (hname ▸ hdrawing)]
          simp only [List.map_cons, List.map_append, hsame, hothers, Function.comp_apply, hlook]

/-- Plans with the same signatures, one by one, show operators that look the same. -/
theorem operators_of_all_eq (h : SignatureTells known look) :
    ∀ {plans others : List PlanTree}, (∀ plan ∈ plans, known plan) →
      (∀ other ∈ others, known other) → plans.map signature = others.map signature →
      (operatorsOfAll true plans).map (look ∘ face) =
        (operatorsOfAll true others).map (look ∘ face)
  | [], [], _, _, _ => rfl
  | plan :: rest, other :: others, hplans, hothers, hsignatures => by
      rw [List.map_cons, List.map_cons] at hsignatures
      obtain ⟨hfirst, hrest⟩ := List.cons.inj hsignatures
      have hsame := h.operators_eq (hplans plan List.mem_cons_self)
        (hothers other List.mem_cons_self) hfirst
      have hsames := h.operators_of_all_eq
        (fun input hin => hplans input (List.mem_cons_of_mem _ hin))
        (fun input hin => hothers input (List.mem_cons_of_mem _ hin)) hrest
      rw [operatorsOfAll, operatorsOfAll, List.map_append, List.map_append, hsame, hsames]

end

end SignatureTells

/-- What a metric is written as says what it declares. -/
theorem declared_eq_of_exchangeable_eq {metric other : PlanMetric}
    (h : metric.toPayload.exchangeable = other.toPayload.exchangeable) :
    metric.declared = other.declared := by
  simp only [PlanMetric.toPayload, Payload.exchangeable, List.cons_append, List.nil_append,
    Payload.exchangeableFields, Payload.object.injEq, List.cons.injEq, Prod.mk.injEq, true_and,
    Payload.text.injEq, Payload.int.injEq] at h
  obtain ⟨hname, haccumulator, htype, -⟩ := h
  rw [PlanMetric.declared, PlanMetric.declared, hname, haccumulator, htype]

/-- What metrics are written as says what they declare. -/
theorem declared_eq_of_items_eq : ∀ {metrics others : List PlanMetric},
    Payload.exchangeableItems (metrics.map PlanMetric.toPayload) =
      Payload.exchangeableItems (others.map PlanMetric.toPayload) →
    metrics.map PlanMetric.declared = others.map PlanMetric.declared
  | [], [], _ => rfl
  | [], other :: others, h => by simp [Payload.exchangeableItems] at h
  | metric :: metrics, [], h => by simp [Payload.exchangeableItems] at h
  | metric :: metrics, other :: others, h => by
      simp only [List.map_cons, Payload.exchangeableItems] at h
      obtain ⟨hfirst, hrest⟩ := List.cons.inj h
      rw [List.map_cons, List.map_cons, declared_eq_of_exchangeable_eq hfirst,
        declared_eq_of_items_eq hrest]

/-- A plan without what its metrics do not declare. -/
def declaredFace (face : String × String × List PlanMetric) :
    String × String × List (String × Int × String) :=
  (face.1, face.2.1, face.2.2.map PlanMetric.declared)

/-- Signatures tell the declared fields of metrics. -/
theorem signature_tells_declared : SignatureTells (fun _ => True) declaredFace where
  inputs := fun _ _ => trivial
  looks := by
    intro plan other _ _ hsignature
    obtain ⟨hname, hdescription, -⟩ := eq_of_signature_eq hsignature
    have hmetrics : plan.metrics.map PlanMetric.declared =
        other.metrics.map PlanMetric.declared := by
      rw [signature_eq plan, signature_eq other] at hsignature
      simp only [List.cons_append, Payload.object.injEq, List.cons.injEq, Prod.mk.injEq, true_and,
        Payload.list.injEq] at hsignature
      exact declared_eq_of_items_eq hsignature.2.2.2.2.1
    simp [declaredFace, face, hname, hdescription, hmetrics]

/-- If the parts of a plan with the same signature have the same metrics, signatures tell all that
can be seen of them. -/
theorem signature_tells_face {plan : PlanTree}
    (h : ∀ one other, plan.HasPart one → plan.HasPart other → one.signature = other.signature →
      one.metrics = other.metrics) : SignatureTells plan.HasPart id where
  inputs := fun hpart hinput => hpart.tail hinput
  looks := by
    intro one other hone hother hsignature
    obtain ⟨hname, hdescription, -⟩ := eq_of_signature_eq hsignature
    simp [face, hname, hdescription, h one other hone hother hsignature]

end PlanTree

namespace PlanGraph

open PlanTree

variable {β : Type} {known : PlanTree → Prop} {look : String × String × List PlanMetric → β}

namespace Draft

variable {draft later : Draft} {plan other : PlanTree}

/-- A draft shows the operators of a plan, reused exchanges followed, in that some node looks like
each of them. -/
def Shows (look : String × String × List PlanMetric → β) (draft : Draft) (plan : PlanTree) : Prop :=
  ∀ operator ∈ plan.operators true, ∃ node ∈ draft.graph.nodes, look node.face = look operator.face

/-- A draft remembers an exchange that is the same as a plan. -/
def Remembers (draft : Draft) (plan : PlanTree) : Prop :=
  ∃ id, (plan.signature, id) ∈ draft.exchanges

/-- A draft shows the remembered exchanges up to a size. -/
def Ready (known : PlanTree → Prop) (look : String × String × List PlanMetric → β) (draft : Draft)
    (size : Nat) : Prop :=
  ∀ plan, known plan → plan.size ≤ size → draft.Remembers plan → draft.Shows look plan

/-- What drawing adds to a draft: nodes, and exchanges that it shows. -/
structure Extends (known : PlanTree → Prop) (look : String × String × List PlanMetric → β)
    (draft later : Draft) : Prop where
  nodes : draft.graph.nodes ⊆ later.graph.nodes
  exchanges : ∀ plan, known plan → later.Remembers plan →
    draft.Remembers plan ∨ later.Shows look plan

/-- What is shown stays shown. -/
theorem Shows.mono (h : draft.Shows look plan) (hnodes : draft.graph.nodes ⊆ later.graph.nodes) :
    later.Shows look plan := by
  intro operator hmem
  obtain ⟨node, hnode, hlook⟩ := h operator hmem
  exact ⟨node, hnodes hnode, hlook⟩

/-- Showing a plan is showing every plan with its signature. -/
theorem Shows.congr (htells : SignatureTells known look) (h : draft.Shows look plan)
    (hplan : known plan) (hother : known other) (hsignature : plan.signature = other.signature) :
    draft.Shows look other := by
  intro operator hmem
  have hlooks := htells.operators_eq hplan hother hsignature
  have hin : look operator.face ∈ (plan.operators true).map (look ∘ face) :=
    hlooks ▸ List.mem_map_of_mem (f := look ∘ face) hmem
  obtain ⟨operator', hmem', hlook'⟩ := List.mem_map.mp hin
  obtain ⟨node, hnode, hlook⟩ := h operator' hmem'
  exact ⟨node, hnode, hlook.trans hlook'⟩

/-- A draft is extended by itself. -/
theorem Extends.refl : draft.Extends known look draft :=
  ⟨fun _ h => h, fun _ _ h => .inl h⟩

/-- An extension is extended. -/
theorem Extends.trans {last : Draft} (h : draft.Extends known look later)
    (h' : later.Extends known look last) : draft.Extends known look last where
  nodes := List.Subset.trans h.nodes h'.nodes
  exchanges := by
    intro plan hplan hremembers
    obtain hremembers | hshows := h'.exchanges plan hplan hremembers
    · exact (h.exchanges plan hplan hremembers).imp_right fun hshows => hshows.mono h'.nodes
    · exact .inr hshows

/-- An extension of a ready draft is ready. -/
theorem Extends.ready {size : Nat} (h : draft.Extends known look later)
    (hready : draft.Ready known look size) : later.Ready known look size := by
  intro plan hplan hsize hremembers
  obtain hremembers | hshows := h.exchanges plan hplan hremembers
  · exact (hready plan hplan hsize hremembers).mono h.nodes
  · exact hshows

/-- Ready up to a size is ready up to smaller ones. -/
theorem Ready.mono {size smaller : Nat} (h : draft.Ready known look size)
    (hle : smaller ≤ size) : draft.Ready known look smaller :=
  fun plan hplan hsize => h plan hplan (Nat.le_trans hsize hle)

/-- A cluster extends a draft. -/
theorem extends_add_cluster : draft.Extends known look (draft.addNode plan .cluster) :=
  ⟨by simp, fun _ _ h => .inl h⟩

/-- A link extends a draft. -/
theorem extends_link {id : Nat} {reader : Option Nat} :
    draft.Extends known look (draft.link id reader) :=
  ⟨by simp, fun _ _ ⟨found, h⟩ => .inl ⟨found, by simpa using h⟩⟩

/-- An operator that is added is the only exchange that is new. -/
theorem remembers_add_operator {reader cluster : Option Nat}
    (h : (draft.addOperator plan reader cluster).Remembers other) :
    draft.Remembers other ∨ other.signature = plan.signature := by
  obtain ⟨id, hmem⟩ := h
  simp only [addOperator, exchanges_link, remember] at hmem
  split at hmem
  · obtain heq | hold := List.mem_cons.mp hmem
    · exact .inr (Prod.mk.inj heq).1
    · exact .inl ⟨id, hold⟩
  · exact .inl ⟨id, hmem⟩

end Draft

open Draft

/-- Every step of a drawing extends the draft, and shows the operators of the plan that is drawn. -/
theorem shows_kept (htells : SignatureTells known look) : KeptByDrawing
    (fun _ _ plan draft last => known plan → draft.Ready known look plan.size →
      draft.Extends known look last ∧ last.Shows look plan)
    (fun _ _ plans draft last => (∀ plan ∈ plans, known plan ∧ draft.Ready known look plan.size) →
      draft.Extends known look last ∧ ∀ plan ∈ plans, last.Shows look plan) where
  done := fun _ => ⟨.refl, by simp⟩
  next := by
    intro reader cluster plan rest draft middle last hfirst hrest hplans
    obtain ⟨hplan, hready⟩ := hplans plan List.mem_cons_self
    obtain ⟨hmiddle, hshows⟩ := hfirst hplan hready
    obtain ⟨hlast, hothers⟩ := hrest fun other hmem =>
      (hplans other (List.mem_cons_of_mem _ hmem)).imp_right hmiddle.ready
    refine ⟨hmiddle.trans hlast, fun other hmem => ?_⟩
    obtain rfl | hmem := List.mem_cons.mp hmem
    · exact hshows.mono hlast.nodes
    · exact hothers other hmem
  fuse := by
    intro reader cluster plan first rest draft last hchildren hname hfirst hplan hready
    have hinput : first ∈ plan.children := hchildren ▸ List.mem_cons_self
    obtain ⟨hlast, hshows⟩ := hfirst (htells.inputs hplan hinput)
      (extends_add_cluster.ready (hready.mono (Nat.le_of_lt (size_lt_of_mem_children hinput))))
    refine ⟨extends_add_cluster.trans hlast, fun operator hmem => ?_⟩
    rw [operators_cluster hchildren hname] at hmem
    obtain rfl | hmem := List.mem_cons.mp hmem
    · exact ⟨draft.nodeOf operator .cluster, hlast.nodes (by simp), rfl⟩
    · exact hshows operator hmem
  pass := by
    intro reader cluster plan first rest draft last hchildren hname hfirst hplan hready
    have hinput : first ∈ plan.children := hchildren ▸ List.mem_cons_self
    obtain ⟨hlast, hshows⟩ := hfirst (htells.inputs hplan hinput)
      (hready.mono (Nat.le_of_lt (size_lt_of_mem_children hinput)))
    refine ⟨hlast, fun operator hmem => ?_⟩
    rw [operators_wrapper hchildren hname] at hmem
    exact hshows operator hmem
  reuse := by
    intro reader cluster plan first rest draft id hchildren hname hfound hplan hready
    have hinput : first ∈ plan.children := hchildren ▸ List.mem_cons_self
    have hshows := hready first (htells.inputs hplan hinput)
      (Nat.le_of_lt (size_lt_of_mem_children hinput)) ⟨id, mem_of_exchange hfound⟩
    refine ⟨extends_link, fun operator hmem => ?_⟩
    have hoperators : plan.operators true = first.operators true := by
      obtain hname | hname := hname
      · exact operators_wrapper hchildren (.inr hname)
      · exact operators_followed hchildren hname
    exact hshows.mono (by simp) operator (hoperators ▸ hmem)
  operator := by
    intro reader cluster plan draft last hname hinputs hplan hready
    have hnodes : draft.graph.nodes ⊆ (draft.addOperator plan reader cluster).graph.nodes := by
      simp [addOperator]
    obtain ⟨hlast, hshows⟩ := hinputs fun input hinput => by
      refine ⟨htells.inputs hplan hinput, fun other hother hsize hremembers => ?_⟩
      have hlt := size_lt_of_mem_children hinput
      obtain hremembers | hsignature := remembers_add_operator hremembers
      · exact (hready other hother (by omega) hremembers).mono hnodes
      · -- The plan itself is larger than its inputs.
        have hsizes := size_eq_of_signature_eq hsignature
        omega
    have hplanShows : last.Shows look plan := by
      intro operator hmem
      obtain rfl | ⟨input, hinput, hmem⟩ := eq_or_mem_of_operators hmem
      · exact ⟨draft.nodeOf operator (.operator cluster), hlast.nodes (by simp [addOperator]), rfl⟩
      · exact hshows input hinput operator hmem
    refine ⟨⟨List.Subset.trans hnodes hlast.nodes, fun other hother hremembers => ?_⟩, hplanShows⟩
    obtain hremembers | hshown := hlast.exchanges other hother hremembers
    · refine (remembers_add_operator hremembers).imp_right fun hsignature => ?_
      exact hplanShows.congr htells hplan hother hsignature.symm
    · exact .inr hshown

/-- The graph of a plan shows its operators, reused exchanges followed. -/
theorem of_plan_shows (htells : SignatureTells known look) {plan : PlanTree} (hplan : known plan) :
    (plan.operators true).map (look ∘ face) ⊆ (ofPlan plan).nodes.map (look ∘ GraphNode.face) := by
  have hready : Draft.empty.Ready known look plan.size := by
    rintro other _ _ ⟨id, hmem⟩
    cases hmem
  obtain ⟨-, hshows⟩ := (shows_kept htells).draw none none plan Draft.empty hplan hready
  intro seen hseen
  obtain ⟨operator, hoperator, rfl⟩ := List.mem_map.mp hseen
  obtain ⟨node, hnode, hlook⟩ := hshows operator hoperator
  exact List.mem_map.mpr ⟨node, hnode, hlook⟩

/-- A graph shows no operator that its plan does not show. -/
theorem faces_of_plan (plan : PlanTree) :
    (ofPlan plan).nodes.map GraphNode.face ⊆ (plan.operators false).map face := by
  obtain ⟨added, hadded, hfaces⟩ := nodes_draw none none plan Draft.empty
  rw [ofPlan, hadded]
  exact hfaces.subset

/-- Nothing is shown in the graph of a plan that the plan does not show, and no operator is lost
where an exchange is found again. Signatures tell the declared fields of metrics; where they also
tell the others, these are not lost either. -/
theorem of_plan_keeps_operators (plan : PlanTree) :
    (ofPlan plan).allNodes.map GraphNode.face ⊆ (plan.operators false).map face ∧
      (plan.operators true).map (declaredFace ∘ face) ⊆
        (ofPlan plan).allNodes.map (declaredFace ∘ GraphNode.face) ∧
      ((∀ one other, plan.HasPart one → plan.HasPart other → one.signature = other.signature →
          one.metrics = other.metrics) →
        (plan.operators true).map face ⊆ (ofPlan plan).allNodes.map GraphNode.face) := by
  have hperm : (ofPlan plan).allNodes.Perm (ofPlan plan).nodes :=
    (well_formed_of_plan plan).all_nodes_perm
  refine ⟨List.Subset.trans (hperm.map _).subset (faces_of_plan plan), ?_, fun hmetrics => ?_⟩
  · exact List.Subset.trans (of_plan_shows signature_tells_declared trivial)
      (hperm.map _).symm.subset
  · exact List.Subset.trans (of_plan_shows (signature_tells_face hmetrics) .refl)
      (hperm.map _).symm.subset

/-- A scan behind an exchange. -/
def exchangedScan : PlanTree :=
  { name := "Exchange", description := "by key", metadata := [], extras := []
    metrics := [{ name := "rows", accumulator := 7, type := "sum", extras := [] }]
    children := [{ name := "Scan", description := "of table", children := [], metadata := []
                   metrics := [], extras := [] }] }

/-- An exchanged scan that is read twice. -/
def scanReadTwice : PlanTree :=
  { name := "Union", description := "", metadata := [], metrics := [], extras := []
    children := [exchangedScan, { name := "ReusedExchange", description := "", metadata := []
                                  metrics := [], extras := [], children := [exchangedScan] }] }

/-- The metrics of the parts of this plan follow from their names. -/
theorem metrics_of_scan_read_twice {part : PlanTree} (h : scanReadTwice.HasPart part) :
    part.metrics = if part.name = "Exchange" then exchangedScan.metrics else [] := by
  have hparts : part ∈ scanReadTwice :: exchangedScan.children ++ scanReadTwice.children := by
    induction h with
    | refl => exact List.mem_cons_self
    | tail _ hinput ih =>
        simp only [scanReadTwice, exchangedScan, List.cons_append, List.nil_append, List.mem_cons,
          List.not_mem_nil, or_false] at ih
        obtain rfl | rfl | rfl | rfl := ih <;>
          simp [scanReadTwice, exchangedScan] at hinput ⊢ <;> simp [hinput]
  simp only [scanReadTwice, exchangedScan, List.cons_append, List.nil_append, List.mem_cons,
    List.not_mem_nil, or_false] at hparts
  obtain rfl | rfl | rfl | rfl := hparts <;> rfl

theorem scan_read_twice_keeps_operators :
    (∀ one other, scanReadTwice.HasPart one → scanReadTwice.HasPart other →
        one.signature = other.signature → one.metrics = other.metrics) ∧
      (scanReadTwice.operators true).map face ⊆
        (ofPlan scanReadTwice).allNodes.map GraphNode.face := by
  have hmetrics : ∀ one other, scanReadTwice.HasPart one → scanReadTwice.HasPart other →
      one.signature = other.signature → one.metrics = other.metrics := by
    intro one other hone hother hsignature
    rw [metrics_of_scan_read_twice hone, metrics_of_scan_read_twice hother,
      (eq_of_signature_eq hsignature).1]
  exact ⟨hmetrics, (of_plan_keeps_operators scanReadTwice).2.2 hmetrics⟩

end PlanGraph

end SparkLog
