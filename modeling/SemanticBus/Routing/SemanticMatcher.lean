import SemanticBus.Data.Ranking
import SemanticBus.Registry.Agent

/-!
# The semantic matcher

`rankResults` turns the results of the language model into a ranking.  The scores
travel through the metadata of the agents: each result overwrites the one before it
for the same agent, and lists the agent once more if it reaches the threshold.  So
an agent can be listed twice, or below the threshold.

`ranked_iff` says for which results the ranking is what its docstring promises: in
the order of the final scores, the first `topK` entries belong to different agents
and reach the threshold.
-/

namespace SemanticBus

/-- How well an agent matches an intent, by the language model. -/
structure MatchResult where
  agentId : String
  score : ℚ
  matchedCapability : String
  reasoning : String
  confidence : ℚ
  score_mem : 0 ≤ score ∧ score ≤ 1
  confidence_mem : 0 ≤ confidence ∧ confidence ≤ 1

namespace AgentRecord

def setMatchScore (agent : AgentRecord) (score : ℚ) : AgentRecord :=
  { agent with metadata := JsonObj.set agent.metadata "_match_score" (.float score) }

/-- `agent.metadata["_match_score"]`, which is set for every agent that is ranked. -/
def matchScore (agent : AgentRecord) : ℚ :=
  match JsonObj.get agent.metadata "_match_score" with
  | .float score => score
  | _ => 0

end AgentRecord

def sliceTo {α : Type*} (items : List α) (stop : Int) : List α :=
  if 0 ≤ stop then items.take stop.toNat else items.take (items.length - stop.natAbs)

/-- The results for the agents that were asked about. -/
def validResults (agents : List AgentRecord) (results : List MatchResult) : List MatchResult :=
  results.filter fun result ↦ result.agentId ∈ agents.map fun agent ↦ agent.agentId.str

/-- One result: the score is stored, and the agent listed if it reaches the
threshold.  What is listed is a reference to the agent, by its id. -/
def rankStep (threshold : ℚ) (state : Dict String AgentRecord × List String)
    (result : MatchResult) : Dict String AgentRecord × List String :=
  if state.1.contains result.agentId then
    (state.1.modify result.agentId fun agent ↦ agent.setMatchScore result.score,
      if threshold ≤ result.score then state.2 ++ [result.agentId] else state.2)
  else state

def agentMap (agents : List AgentRecord) : Dict String AgentRecord :=
  .ofList (agents.map fun agent ↦ (agent.agentId.str, agent))

def rankResults (agents : List AgentRecord) (results : List MatchResult) (topK : Int)
    (threshold : ℚ) : List AgentRecord :=
  let state := results.foldl (rankStep threshold) (agentMap agents, [])
  sliceTo (sortDesc AgentRecord.matchScore (state.2.filterMap state.1.get?)) topK

/-! ## What a ranking is meant to be -/

/-- The score of an agent is that of the last result for it. -/
def lastScore (results : List MatchResult) (id : String) : Option ℚ :=
  (results.reverse.find? (·.agentId = id)).map MatchResult.score

/-- The results of known agents that reach the threshold. -/
def entries (agents : List AgentRecord) (results : List MatchResult) (threshold : ℚ) :
    List MatchResult :=
  results.filter fun result ↦
    result.agentId ∈ agents.map (fun agent ↦ agent.agentId.str) ∧ threshold ≤ result.score

/-- At most `topK` different agents by descending scores, none of which is below the
threshold, and if an agent that reaches it is left out, the ranking is full and no
agent in it scores less. -/
structure Ranked (agents : List AgentRecord) (results : List MatchResult) (topK : ℕ)
    (threshold : ℚ) (ranking : List AgentRecord) : Prop where
  length_le : ranking.length ≤ topK
  nodup : (ranking.map AgentRecord.agentId).Nodup
  sorted : ranking.Pairwise fun a b ↦ b.matchScore ≤ a.matchScore
  reaches : ∀ agent ∈ ranking, threshold ≤ agent.matchScore
  full : ∀ agent ∈ agents, agent.agentId ∉ ranking.map AgentRecord.agentId →
    ∀ score, lastScore results agent.agentId.str = some score → threshold ≤ score →
      ranking.length = topK ∧ ∀ other ∈ ranking, score ≤ other.matchScore

def finalScore (results : List MatchResult) (result : MatchResult) : ℚ :=
  (lastScore results result.agentId).getD result.score

/-- Of the entries with fewer than `topK` before them, by the final scores of their
agents and then by their positions, no two belong to one agent, and none to an
agent whose final score is below the threshold. -/
def Clean (agents : List AgentRecord) (results : List MatchResult) (topK : ℕ)
    (threshold : ℚ) : Prop :=
  let listed := entries agents results threshold
  ∀ p ∈ listed.zipIdx, place (finalScore results) listed p < topK →
    threshold ≤ finalScore results p.1 ∧
      ∀ q ∈ listed.zipIdx, place (finalScore results) listed q < topK →
        q.1.agentId = p.1.agentId → q = p

/-! ## The loop -/

section Loop

variable {agents : List AgentRecord} {results : List MatchResult} {result : MatchResult}
  {threshold : ℚ} {topK : ℕ} {agent : AgentRecord} {id : String}

@[simp] theorem AgentRecord.matchScore_setMatchScore (agent : AgentRecord) (score : ℚ) :
    (agent.setMatchScore score).matchScore = score := by
  rw [matchScore, setMatchScore, JsonObj.get, JsonObj.getD, JsonObj.lookup_set, if_pos rfl,
    Option.getD_some]

theorem lastScore_concat : lastScore (results ++ [result]) id =
    if result.agentId = id then some result.score else lastScore results id := by
  rw [lastScore, List.reverse_append, List.reverse_singleton, List.singleton_append,
    List.find?_cons]
  split
  · rename_i h
    rw [if_pos (of_decide_eq_true h)]
    rfl
  · rename_i h
    rw [if_neg (of_decide_eq_false h)]
    rfl

theorem contains_agentMap_iff :
    (agentMap agents).contains id ↔ id ∈ agents.map fun agent ↦ agent.agentId.str := by
  rw [Dict.contains_iff, List.mem_map]
  constructor
  · rintro ⟨agent, hget⟩
    obtain ⟨other, hmem, heq⟩ := List.mem_map.mp (Dict.mem_of_get?_ofList hget)
    exact ⟨other, hmem, (Prod.mk.inj heq).1⟩
  · rintro ⟨agent, hmem, rfl⟩
    exact Dict.exists_get?_ofList (List.mem_map_of_mem hmem)

theorem contains_rankStep (state : Dict String AgentRecord × List String) :
    (rankStep threshold state result).1.contains id = state.1.contains id := by
  rw [rankStep]
  split
  · rw [Dict.contains, Dict.get?_modify]
    split
    · rename_i h
      rw [Option.isSome_map, h]
      rfl
    · rfl
  · rfl

theorem contains_foldl_rankStep :
    (results.foldl (rankStep threshold) (agentMap agents, [])).1.contains id ↔
      id ∈ agents.map fun agent ↦ agent.agentId.str := by
  induction results using List.reverseRecOn with
  | nil => exact contains_agentMap_iff
  | append_singleton results result ih =>
      rw [List.foldl_append, List.foldl_cons, List.foldl_nil, contains_rankStep]
      exact ih

theorem entries_concat : entries agents (results ++ [result]) threshold =
    if result.agentId ∈ agents.map (fun agent ↦ agent.agentId.str) ∧ threshold ≤ result.score
      then entries agents results threshold ++ [result] else entries agents results threshold := by
  split
  · rename_i h
    simp only [entries, List.filter_append, List.filter_cons, List.filter_nil, decide_eq_true h,
      if_true]
  · rename_i h
    simp only [entries, List.filter_append, List.filter_cons, List.filter_nil, decide_eq_false h,
      Bool.false_eq_true, if_false, List.append_nil]

/-- The loop lists the agents of the entries. -/
theorem foldl_rankStep_snd (agents : List AgentRecord) (results : List MatchResult)
    (threshold : ℚ) : (results.foldl (rankStep threshold) (agentMap agents, [])).2 =
      (entries agents results threshold).map MatchResult.agentId := by
  induction results using List.reverseRecOn with
  | nil => rfl
  | append_singleton results result ih =>
      rw [List.foldl_append, List.foldl_cons, List.foldl_nil, rankStep, entries_concat]
      by_cases hknown : result.agentId ∈ agents.map fun agent ↦ agent.agentId.str
      · rw [if_pos (contains_foldl_rankStep.mpr hknown), ih]
        by_cases hreach : threshold ≤ result.score
        · rw [if_pos hreach, if_pos ⟨hknown, hreach⟩, List.map_append]
          rfl
        · rw [if_neg hreach, if_neg fun h ↦ hreach h.2]
      · rw [if_neg fun h ↦ hknown (contains_foldl_rankStep.mp h), ih, if_neg fun h ↦ hknown h.1]

/-- An agent with results is left with the score of the last one. -/
theorem foldl_rankStep_fst (agents : List AgentRecord) (results : List MatchResult)
    (threshold : ℚ) (hid : id ∈ agents.map fun agent ↦ agent.agentId.str) : ∃ agent,
      (results.foldl (rankStep threshold) (agentMap agents, [])).1.get? id = some agent ∧
        agent.agentId.str = id ∧
          ∀ score, lastScore results id = some score → agent.matchScore = score := by
  induction results using List.reverseRecOn with
  | nil =>
      obtain ⟨agent, hget⟩ := Dict.contains_iff.mp (contains_agentMap_iff.mpr hid)
      obtain ⟨other, -, heq⟩ := List.mem_map.mp (Dict.mem_of_get?_ofList hget)
      obtain ⟨hstr, rfl⟩ := Prod.mk.inj heq
      refine ⟨other, hget, hstr, ?_⟩
      intro score hlast
      cases hlast
  | append_singleton results result ih =>
      obtain ⟨agent, hget, hstr, hscore⟩ := ih
      rw [List.foldl_append, List.foldl_cons, List.foldl_nil, rankStep, lastScore_concat]
      by_cases heq : result.agentId = id
      · rw [if_pos (contains_foldl_rankStep.mpr (heq ▸ hid)), if_pos heq]
        refine ⟨agent.setMatchScore result.score, ?_, hstr, ?_⟩
        · rw [Dict.get?_modify, if_pos heq.symm, heq, hget]
          rfl
        · rintro score ⟨⟩
          exact agent.matchScore_setMatchScore result.score
      · refine ⟨agent, ?_, hstr, ?_⟩
        · split
          · rw [Dict.get?_modify, if_neg (Ne.symm heq)]
            exact hget
          · exact hget
        · rw [if_neg heq]
          exact hscore

/-- An entry is a result of an agent that was asked about. -/
theorem mem_entries_iff : result ∈ entries agents results threshold ↔ result ∈ results ∧
    result.agentId ∈ agents.map (fun agent ↦ agent.agentId.str) ∧ threshold ≤ result.score := by
  rw [entries, List.mem_filter, decide_eq_true_eq]

theorem exists_lastScore (h : result ∈ results) :
    lastScore results result.agentId = some (finalScore results result) := by
  rw [finalScore]
  cases hlast : results.reverse.find? (·.agentId = result.agentId) with
  | none =>
      have hnone := List.find?_eq_none.mp hlast result (List.mem_reverse.mpr h)
      exact absurd (decide_eq_true rfl) hnone
  | some last => simp only [lastScore, hlast, Option.map_some, Option.getD_some]

/-- A final score is that of a result. -/
theorem exists_of_lastScore {score : ℚ} (h : lastScore results id = some score) :
    ∃ result ∈ results, result.agentId = id ∧ result.score = score := by
  obtain ⟨last, hlast, rfl⟩ := Option.map_eq_some_iff.mp h
  refine ⟨last, List.mem_reverse.mp (List.mem_of_find?_eq_some hlast), ?_, rfl⟩
  simpa using List.find?_some hlast

/-- What is sorted are the entries, each as the agent that it is about. -/
theorem exists_ranked (agents : List AgentRecord) (results : List MatchResult) (threshold : ℚ) :
    ∃ toAgent : MatchResult → AgentRecord,
      (∀ result ∈ entries agents results threshold,
        (toAgent result).agentId.str = result.agentId ∧
          (toAgent result).matchScore = finalScore results result) ∧
      ∀ topK, rankResults agents results topK threshold =
        sliceTo ((sortDesc (finalScore results) (entries agents results threshold)).map toAgent)
          topK := by
  let final := (results.foldl (rankStep threshold) (agentMap agents, [])).1
  have hfinal : ∀ result : MatchResult, ∃ agent : AgentRecord,
      result ∈ entries agents results threshold → final.get? result.agentId = some agent ∧
        agent.agentId.str = result.agentId ∧ agent.matchScore = finalScore results result := by
    intro result
    by_cases hmem : result ∈ entries agents results threshold
    · obtain ⟨hresult, hknown, -⟩ := mem_entries_iff.mp hmem
      obtain ⟨agent, hget, hstr, hscore⟩ := foldl_rankStep_fst agents results threshold hknown
      exact ⟨agent, fun _ ↦ ⟨hget, hstr, hscore _ (exists_lastScore hresult)⟩⟩
    · exact ⟨{ agentId := ⟨0⟩, tenantId := "", connId := "", lastSeen := 0, registeredAt := 0 },
        fun h ↦ absurd h hmem⟩
  choose toAgent hagent using hfinal
  refine ⟨toAgent, fun result hmem ↦ (hagent result hmem).2, ?_⟩
  intro topK
  rw [rankResults, foldl_rankStep_snd]
  have hlisted : ((entries agents results threshold).map MatchResult.agentId).filterMap final.get? =
      (entries agents results threshold).map toAgent := by
    rw [List.filterMap_map, List.filterMap_eq_map_iff_forall_eq_some]
    intro result hmem
    exact (hagent result hmem).1
  rw [hlisted, sortDesc_map fun result hmem ↦ (hagent result hmem).2.2]

/-- Results for other agents make no difference. -/
theorem rankResults_validResults (agents : List AgentRecord) (results : List MatchResult)
    (topK : Int) (threshold : ℚ) : rankResults agents (validResults agents results) topK threshold =
      rankResults agents results topK threshold := by
  have hstate : (validResults agents results).foldl (rankStep threshold) (agentMap agents, []) =
      results.foldl (rankStep threshold) (agentMap agents, []) := by
    induction results using List.reverseRecOn with
    | nil => rfl
    | append_singleton results result ih =>
        rw [validResults, List.filter_append, List.foldl_append, List.foldl_append]
        rw [validResults] at ih
        by_cases hknown : result.agentId ∈ agents.map fun agent ↦ agent.agentId.str
        · simp only [List.filter_cons, hknown, decide_true, if_true, List.filter_nil, ih]
        · simp only [List.filter_cons, hknown, decide_false, Bool.false_eq_true, if_false,
            List.filter_nil, List.foldl_nil, List.foldl_cons, ih]
          rw [rankStep, if_neg fun h ↦ hknown (contains_foldl_rankStep.mp h)]
  rw [rankResults, rankResults, hstate]

theorem sliceTo_natCast {α : Type*} (items : List α) (k : ℕ) : sliceTo items k = items.take k := by
  rw [sliceTo, if_pos (Int.natCast_nonneg k), Int.toNat_natCast]

end Loop

/-! ## The ranking -/

section Ranking

variable {agents : List AgentRecord} {results : List MatchResult} {threshold : ℚ} {topK : ℕ}

/-- An agent that reaches the threshold is among the entries. -/
theorem exists_entry {agent : AgentRecord} {score : ℚ} (hagent : agent ∈ agents)
    (hlast : lastScore results agent.agentId.str = some score) (hreach : threshold ≤ score) :
    ∃ result ∈ entries agents results threshold, result.agentId = agent.agentId.str ∧
      finalScore results result = score := by
  obtain ⟨result, hmem, hid, rfl⟩ := exists_of_lastScore hlast
  refine ⟨result, mem_entries_iff.mpr ⟨hmem, ?_, hreach⟩, hid, ?_⟩
  · rw [hid]
    exact List.mem_map_of_mem hagent
  · rw [finalScore, hid, hlast]
    rfl

/-- The ranking as the agents of the first entries. -/
structure Tops (agents : List AgentRecord) (results : List MatchResult) (threshold : ℚ) (topK : ℕ)
    (top : List (MatchResult × ℕ)) (toAgent : MatchResult → AgentRecord) : Prop where
  nodup : top.Nodup
  mem : ∀ p, p ∈ top ↔ p ∈ (entries agents results threshold).zipIdx ∧
    place (finalScore results) (entries agents results threshold) p < topK
  take : (sortDesc (finalScore results) (entries agents results threshold)).take topK =
    top.map Prod.fst
  agent : ∀ result ∈ entries agents results threshold,
    (toAgent result).agentId.str = result.agentId ∧
      (toAgent result).matchScore = finalScore results result
  ranking : rankResults agents results topK threshold = top.map fun p ↦ toAgent p.1

theorem exists_tops (agents : List AgentRecord) (results : List MatchResult) (threshold : ℚ)
    (topK : ℕ) : ∃ top toAgent, Tops agents results threshold topK top toAgent := by
  obtain ⟨toAgent, hagent, hrank⟩ := exists_ranked agents results threshold
  obtain ⟨top, hnodup, hmem, htake⟩ :=
    exists_top (finalScore results) (entries agents results threshold) topK
  refine ⟨top, toAgent, hnodup, hmem, htake, hagent, ?_⟩
  rw [hrank, sliceTo_natCast, ← List.map_take, htake, List.map_map]
  rfl

namespace Tops

variable {top : List (MatchResult × ℕ)} {toAgent : MatchResult → AgentRecord}
  {p q : MatchResult × ℕ}

theorem mem_entries (h : Tops agents results threshold topK top toAgent) (hp : p ∈ top) :
    p.1 ∈ entries agents results threshold := List.fst_mem_of_mem_zipIdx ((h.mem p).mp hp).1

theorem matchScore (h : Tops agents results threshold topK top toAgent) (hp : p ∈ top) :
    (toAgent p.1).matchScore = finalScore results p.1 := (h.agent p.1 (h.mem_entries hp)).2

/-- Two of them are of one agent if their results are. -/
theorem agentId_eq_iff (h : Tops agents results threshold topK top toAgent) (hp : p ∈ top)
    (hq : q ∈ top) :
    (toAgent p.1).agentId = (toAgent q.1).agentId ↔ p.1.agentId = q.1.agentId := by
  rw [← (h.agent p.1 (h.mem_entries hp)).1, ← (h.agent q.1 (h.mem_entries hq)).1]
  exact UUID.str_injective.eq_iff.symm

theorem map_agentId : (top.map fun p ↦ toAgent p.1).map AgentRecord.agentId =
    top.map fun p ↦ (toAgent p.1).agentId := by
  rw [List.map_map]
  rfl

theorem clean_of_ranked (h : Tops agents results threshold topK top toAgent)
    (hranked : Ranked agents results topK threshold (top.map fun p ↦ toAgent p.1)) :
    Clean agents results topK threshold := by
  intro p hp hplace
  have hptop := (h.mem p).mpr ⟨hp, hplace⟩
  constructor
  · rw [← h.matchScore hptop]
    exact hranked.reaches _ (List.mem_map_of_mem hptop)
  · intro q hq hplace' hid
    have hqtop := (h.mem q).mpr ⟨hq, hplace'⟩
    have hdistinct := hranked.nodup
    rw [map_agentId] at hdistinct
    exact List.inj_on_of_nodup_map hdistinct hqtop hptop ((h.agentId_eq_iff hqtop hptop).mpr hid)

theorem clean (h : Tops agents results threshold topK top toAgent)
    (hclean : Clean agents results topK threshold) (hp : p ∈ top) :
    threshold ≤ finalScore results p.1 ∧ ∀ q ∈ top, q.1.agentId = p.1.agentId → q = p := by
  obtain ⟨hzip, hplace⟩ := (h.mem p).mp hp
  obtain ⟨hreach, honly⟩ := hclean p hzip hplace
  exact ⟨hreach, fun q hq ↦ honly q ((h.mem q).mp hq).1 ((h.mem q).mp hq).2⟩

theorem length_eq (h : Tops agents results threshold topK top toAgent) :
    top.length =
      min topK (sortDesc (finalScore results) (entries agents results threshold)).length := by
  rw [← List.length_map Prod.fst, ← h.take, List.length_take]

/-- They go by descending scores, and what comes after them scores no more. -/
theorem sorted (h : Tops agents results threshold topK top toAgent) :
    (top.map fun p ↦ toAgent p.1).Pairwise (fun a b ↦ b.matchScore ≤ a.matchScore) ∧
      ∀ p ∈ top, ∀ result ∈ (sortDesc (finalScore results)
        (entries agents results threshold)).drop topK,
          finalScore results result ≤ finalScore results p.1 := by
  have hsorted := pairwise_sortDesc (finalScore results) (entries agents results threshold)
  rw [← List.take_append_drop topK (sortDesc _ _), h.take] at hsorted
  obtain ⟨htop, -, hdrop⟩ := List.pairwise_append.mp hsorted
  constructor
  · rw [List.pairwise_map] at htop ⊢
    apply htop.imp_of_mem
    intro p q hp hq hle
    rw [h.matchScore hp, h.matchScore hq]
    exact hle
  · intro p hp result hrest
    exact hdrop p.1 (List.mem_map_of_mem hp) result hrest

/-- The entry of an agent that is left out comes after them. -/
theorem mem_drop (h : Tops agents results threshold topK top toAgent) {result : MatchResult}
    {agent : AgentRecord} (hentry : result ∈ entries agents results threshold)
    (hid : result.agentId = agent.agentId.str)
    (hout : agent.agentId ∉ (top.map fun p ↦ toAgent p.1).map AgentRecord.agentId) :
    result ∈ (sortDesc (finalScore results) (entries agents results threshold)).drop topK := by
  have hin := (sortDesc_perm (finalScore results) _).mem_iff.mpr hentry
  rw [← List.take_append_drop topK (sortDesc _ _), h.take] at hin
  rcases List.mem_append.mp hin with hin | hin
  · obtain ⟨p, hp, rfl⟩ := List.mem_map.mp hin
    have heq : (toAgent p.1).agentId = agent.agentId := by
      apply UUID.str_injective
      rw [(h.agent p.1 hentry).1, hid]
    rw [map_agentId, ← heq] at hout
    exact absurd (List.mem_map_of_mem hp) hout
  · exact hin

theorem ranked_of_clean (h : Tops agents results threshold topK top toAgent)
    (hclean : Clean agents results topK threshold) :
    Ranked agents results topK threshold (top.map fun p ↦ toAgent p.1) := by
  obtain ⟨hsorted, hafter⟩ := h.sorted
  constructor
  · rw [List.length_map, h.length_eq]
    exact min_le_left _ _
  · rw [map_agentId]
    apply h.nodup.map_on
    intro p hp q hq heq
    exact (h.clean hclean hq).2 p hp ((h.agentId_eq_iff hp hq).mp heq)
  · exact hsorted
  · intro agent hmem
    obtain ⟨p, hp, rfl⟩ := List.mem_map.mp hmem
    rw [h.matchScore hp]
    exact (h.clean hclean hp).1
  · intro agent hmem hout score hlast hreach
    obtain ⟨result, hentry, hid, rfl⟩ := exists_entry hmem hlast hreach
    have hrest := h.mem_drop hentry hid hout
    constructor
    · have hpos := List.length_pos_of_mem hrest
      rw [List.length_drop] at hpos
      rw [List.length_map, h.length_eq]
      omega
    · intro other hother
      obtain ⟨p, hp, rfl⟩ := List.mem_map.mp hother
      rw [h.matchScore hp]
      exact hafter p hp result hrest

end Tops

theorem ranked_rankResults_iff (agents : List AgentRecord) (results : List MatchResult)
    (topK : ℕ) (threshold : ℚ) : Ranked agents results topK threshold
      (rankResults agents results topK threshold) ↔ Clean agents results topK threshold := by
  obtain ⟨top, toAgent, h⟩ := exists_tops agents results threshold topK
  rw [h.ranking]
  exact ⟨h.clean_of_ranked, h.ranked_of_clean⟩

/-- For every answer of the language model, the ranking is what it is meant to be
just when the first entries are clean. -/
theorem ranked_iff (agents : List AgentRecord) (results : List MatchResult) (topK : ℕ)
    (threshold : ℚ) : Ranked agents results topK threshold
      (rankResults agents (validResults agents results) topK threshold) ↔
        Clean agents results topK threshold := by
  rw [rankResults_validResults]
  exact ranked_rankResults_iff agents results topK threshold

end Ranking

def sampleResult (id : String) (score : ℚ) (h : 0 ≤ score ∧ score ≤ 1) : MatchResult where
  agentId := id
  score := score
  matchedCapability := "translate"
  reasoning := ""
  confidence := 1
  score_mem := h
  confidence_mem := by norm_num

/-- Two results for one agent, for two of its capabilities, list it twice. -/
theorem not_ranked_of_repeated : ¬ ∀ (agents : List AgentRecord) (results : List MatchResult)
    (topK : ℕ) (threshold : ℚ), (agents.map AgentRecord.agentId).Nodup →
      Ranked agents results topK threshold
        (rankResults agents (validResults agents results) topK threshold) := by
  intro h
  let agent : AgentRecord :=
    { agentId := ⟨1⟩, tenantId := "acme", connId := "", lastSeen := 0, registeredAt := 0 }
  let first := sampleResult agent.agentId.str (9 / 10) (by norm_num)
  let second := sampleResult agent.agentId.str (4 / 5) (by norm_num)
  have hranked := h [agent] [first, second] 3 (1 / 2) (List.nodup_singleton _)
  rw [rankResults_validResults, ranked_rankResults_iff] at hranked
  have hentries : entries [agent] [first, second] (1 / 2) = [first, second] := by
    rw [entries, List.filter_eq_self]
    intro result hmem
    have hknown : result.agentId = agent.agentId.str ∧ 1 / 2 ≤ result.score := by
      rcases List.mem_pair.mp hmem with rfl | rfl
      · exact ⟨rfl, by norm_num [first, sampleResult]⟩
      · exact ⟨rfl, by norm_num [second, sampleResult]⟩
    exact decide_eq_true ⟨by simp [hknown.1], hknown.2⟩
  have hplace : ∀ p, place (finalScore [first, second]) [first, second] p < 3 := by
    intro p
    exact Nat.lt_succ_of_le List.countP_le_length
  rw [Clean, hentries] at hranked
  have heq := (hranked (first, 0) (by simp) (hplace _)).2 (second, 1) (by simp) (hplace _) rfl
  exact absurd (congrArg Prod.snd heq) Nat.one_ne_zero

end SemanticBus
