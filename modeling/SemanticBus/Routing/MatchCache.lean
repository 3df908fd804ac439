import Mathlib.Data.Finset.Basic
import SemanticBus.Routing.SemanticMatcher

/-!
# The cache of the semantic matcher

Results are cached for a while under the intent and the hash of the agent ids.
What else the language model is shown, descriptions and capabilities, is not part
of the key, so a call may be answered by what was said about its agents before they
changed.

`rankAgents_eq` says how stale an answer can be: it is the one to the call itself or
to an earlier call with the same intent and hash that is younger than the time to
live.  A call whose agents look as they did in all those gets what it would get
without the cache.
-/

namespace SemanticBus

def AgentRecord.shown (agent : AgentRecord) : UUID × Option String × List String :=
  (agent.agentId, agent.description, agent.capabilities)

/-- A language model that answers by the intent and the set of agents it is shown;
`none` when the call raises.  An answer in another format counts as no results. -/
abbrev MatchModel :=
  String → Finset (UUID × Option String × List String) → Option (List MatchResult)

/-- The answer of the language model, without the results for other agents. -/
def callAgent (llm : MatchModel) (intent : String) (agents : List AgentRecord) :
    Option (List MatchResult) :=
  (llm intent (agents.map AgentRecord.shown).toFinset).map (validResults agents)

/-- A call of `rank_agents`; the cache is read at `now`, and results are stored in it
at `stored`. -/
structure RankCall where
  intent : String
  agents : List AgentRecord
  topK : Int := 3
  threshold : ℚ := 1 / 2
  now : Time
  stored : Time

structure SemanticMatcher where
  cacheTtl : Time := 300000000
  cache : Dict String (List MatchResult × Time) := ∅

namespace SemanticMatcher

variable (hash : List UUID → Int) (llm : MatchModel)

/-- `hash(tuple(sorted(agent.agent_id for agent in agents)))`. -/
def idsHash (agents : List AgentRecord) : Int :=
  hash ((agents.map AgentRecord.agentId).mergeSort fun a b ↦ a.int ≤ b.int)

def getCacheKey (intent : String) (agents : List AgentRecord) : String :=
  intent ++ ":" ++ toString (idsHash hash agents)

/-- The results under a key that are not too old; older ones are deleted. -/
def getCachedResults (m : SemanticMatcher) (key : String) (now : Time) :
    SemanticMatcher × Option (List MatchResult) :=
  match m.cache.get? key with
  | none => (m, none)
  | some (results, timestamp) =>
      if now - timestamp < m.cacheTtl then (m, some results)
      else ({ m with cache := m.cache.erase key }, none)

def rankAgents (m : SemanticMatcher) (call : RankCall) : SemanticMatcher × List AgentRecord :=
  if call.agents = [] then (m, [])
  else
    let key := getCacheKey hash call.intent call.agents
    let (m, cached) := m.getCachedResults key call.now
    match cached with
    | some results => (m, rankResults call.agents results call.topK call.threshold)
    | none =>
        match callAgent llm call.intent call.agents with
        | none => (m, [])
        | some results =>
            ({ m with cache := m.cache.insert key (results, call.stored) },
              rankResults call.agents results call.topK call.threshold)

/-- The matcher after some calls. -/
def after (m : SemanticMatcher) (calls : List RankCall) : SemanticMatcher :=
  calls.foldl (fun m call ↦ (m.rankAgents hash llm call).1) m

end SemanticMatcher

namespace RankCall

/-- The agents of a call, ranked by the answer of the language model to another. -/
def rankedBy (llm : MatchModel) (call source : RankCall) : List AgentRecord :=
  if call.agents = [] then []
  else match callAgent llm source.intent source.agents with
    | none => []
    | some results => rankResults call.agents results call.topK call.threshold

/-- The results of an earlier call may still answer this one. -/
structure Recalls (hash : List UUID → Int) (ttl : Time) (call source : RankCall) : Prop where
  intent : source.intent = call.intent
  ids : SemanticMatcher.idsHash hash source.agents = SemanticMatcher.idsHash hash call.agents
  fresh : call.now - source.stored < ttl

end RankCall

/-! ## Keys -/

theorem isDigit_of_mem_toString {n : Nat} {c : Char} (h : c ∈ (toString n).toList) :
    c.isDigit = true := by
  rw [Nat.toString_eq_ofList_toDigits, String.toList_ofList] at h
  exact Nat.isDigit_of_mem_toDigits (by decide) (by decide) h

theorem colon_notMem_toString_int (n : Int) : ':' ∉ (toString n).toList := by
  intro h
  cases n with
  | ofNat n => exact absurd (isDigit_of_mem_toString (n := n) h) (by decide)
  | negSucc n =>
      change ':' ∈ ("-" ++ toString (n + 1)).toList at h
      rw [String.toList_append, List.mem_append] at h
      rcases h with h | h
      · exact absurd h (by decide)
      · exact absurd (isDigit_of_mem_toString h) (by decide)

theorem toString_ne_neg (n k : Nat) : toString n ≠ "-" ++ toString k := by
  intro h
  have hmem : '-' ∈ (toString n).toList := by
    rw [h, String.toList_append]
    exact List.mem_append_left _ (by decide)
  exact absurd (isDigit_of_mem_toString hmem) (by decide)

theorem toString_int_injective : Function.Injective (toString : Int → String) := by
  intro n k h
  cases n with
  | ofNat n =>
      cases k with
      | ofNat k => exact congrArg Int.ofNat (toString_injective h)
      | negSucc k => exact absurd h (toString_ne_neg n (k + 1))
  | negSucc n =>
      cases k with
      | ofNat k => exact absurd h.symm (toString_ne_neg k (n + 1))
      | negSucc k =>
          have hnat : toString (n + 1) = toString (k + 1) := by
            apply String.toList_injective
            have hlist := congrArg String.toList h
            change ("-" ++ toString (n + 1)).toList = ("-" ++ toString (k + 1)).toList at hlist
            rw [String.toList_append, String.toList_append] at hlist
            exact List.append_cancel_left hlist
          exact congrArg Int.negSucc (Nat.succ_injective (toString_injective hnat))

namespace SemanticMatcher

variable {hash : List UUID → Int} {llm : MatchModel} {m : SemanticMatcher} {call : RankCall}
  {calls : List RankCall}

/-- A key determines the intent and the hash. -/
theorem getCacheKey_inj {intent intent' : String} {agents agents' : List AgentRecord}
    (h : getCacheKey hash intent agents = getCacheKey hash intent' agents') :
    intent = intent' ∧ idsHash hash agents = idsHash hash agents' := by
  have hlist := congrArg String.toList h
  simp only [getCacheKey, String.toList_append, List.append_assoc] at hlist
  obtain ⟨hintent, hhash⟩ := append_cons_inj (colon_notMem_toString_int _)
    (colon_notMem_toString_int _) hlist
  exact ⟨String.toList_injective hintent, toString_int_injective (String.toList_injective hhash)⟩

/-- Every cached entry was stored by one of the calls. -/
def Stored (hash : List UUID → Int) (llm : MatchModel) (calls : List RankCall)
    (cache : Dict String (List MatchResult × Time)) : Prop :=
  ∀ key results timestamp, cache.get? key = some (results, timestamp) → ∃ source ∈ calls,
    key = getCacheKey hash source.intent source.agents ∧ timestamp = source.stored ∧
      callAgent llm source.intent source.agents = some results

theorem Stored.mono {calls' : List RankCall} {cache cache' : Dict String (List MatchResult × Time)}
    (h : Stored hash llm calls cache) (hcalls : calls ⊆ calls')
    (hcache : ∀ key entry, cache'.get? key = some entry → cache.get? key = some entry) :
    Stored hash llm calls' cache' := by
  intro key results timestamp hget
  obtain ⟨source, hmem, hsource⟩ := h key results timestamp (hcache key _ hget)
  exact ⟨source, hcalls hmem, hsource⟩

/-- Looking up only deletes, and what it finds is in the cache and fresh. -/
theorem getCachedResults_spec (m : SemanticMatcher) (key : String) (now : Time) :
    (m.getCachedResults key now).1.cacheTtl = m.cacheTtl ∧
      (∀ key' entry, (m.getCachedResults key now).1.cache.get? key' = some entry →
        m.cache.get? key' = some entry) ∧
      ∀ results, (m.getCachedResults key now).2 = some results → ∃ timestamp,
        m.cache.get? key = some (results, timestamp) ∧ now - timestamp < m.cacheTtl := by
  rw [getCachedResults]
  cases hget : m.cache.get? key with
  | none =>
      refine ⟨rfl, fun _ _ h ↦ h, ?_⟩
      rintro results ⟨⟩
  | some entry =>
      obtain ⟨results, timestamp⟩ := entry
      simp only
      split
      · rename_i hfresh
        refine ⟨rfl, fun _ _ h ↦ h, ?_⟩
        rintro _ ⟨⟩
        exact ⟨timestamp, rfl, hfresh⟩
      · refine ⟨rfl, ?_, ?_⟩
        · intro key' entry h
          rw [Dict.get?_erase] at h
          split at h
          · cases h
          · exact h
        · rintro results ⟨⟩

/-- What a call does to the cache, and what it returns. -/
theorem rankAgents_spec (h : Stored hash llm calls m.cache) :
    (m.rankAgents hash llm call).1.cacheTtl = m.cacheTtl ∧
      Stored hash llm (calls ++ [call]) (m.rankAgents hash llm call).1.cache ∧
      ∃ source, (source = call ∨ source ∈ calls ∧ call.Recalls hash m.cacheTtl source) ∧
        (m.rankAgents hash llm call).2 = call.rankedBy llm source := by
  have hkeep : calls ⊆ calls ++ [call] := List.subset_append_left _ _
  rw [rankAgents]
  split
  · rename_i hnil
    refine ⟨rfl, h.mono hkeep fun _ _ hget ↦ hget, call, .inl rfl, ?_⟩
    rw [RankCall.rankedBy, if_pos hnil]
  · rename_i hagents
    obtain ⟨httl, hcache, hfound⟩ :=
      m.getCachedResults_spec (getCacheKey hash call.intent call.agents) call.now
    cases hlookup : m.getCachedResults (getCacheKey hash call.intent call.agents) call.now with
    | mk m' cached =>
        rw [hlookup] at httl hcache hfound
        simp only [hlookup]
        have hstored := h.mono hkeep hcache
        cases cached with
        | some results =>
            -- the results of an earlier call
            obtain ⟨timestamp, hget, hfresh⟩ := hfound results rfl
            obtain ⟨source, hmem, hkey, rfl, hanswer⟩ := h _ _ _ hget
            obtain ⟨hintent, hids⟩ := getCacheKey_inj hkey
            refine ⟨httl, hstored, source, .inr ⟨hmem, hintent.symm, hids.symm, hfresh⟩, ?_⟩
            rw [RankCall.rankedBy, if_neg hagents, hanswer]
        | none =>
            cases hanswer : callAgent llm call.intent call.agents with
            | none =>
                refine ⟨httl, hstored, call, .inl rfl, ?_⟩
                rw [RankCall.rankedBy, if_neg hagents, hanswer]
            | some results =>
                refine ⟨httl, ?_, call, .inl rfl, ?_⟩
                · intro key results' timestamp hget
                  rw [Dict.get?_insert] at hget
                  split at hget
                  · rename_i hkey
                    cases hget
                    exact ⟨call, List.mem_append_right _ (List.mem_singleton_self _), hkey, rfl,
                      hanswer⟩
                  · exact hstored key results' timestamp hget
                · rw [RankCall.rankedBy, if_neg hagents, hanswer]

/-- The cache of a new matcher after some calls. -/
theorem stored_after (ttl : Time) (calls : List RankCall) :
    (after hash llm { cacheTtl := ttl } calls).cacheTtl = ttl ∧
      Stored hash llm calls (after hash llm { cacheTtl := ttl } calls).cache := by
  induction calls using List.reverseRecOn with
  | nil =>
      refine ⟨rfl, ?_⟩
      rintro key results timestamp ⟨⟩
  | append_singleton calls call ih =>
      obtain ⟨httl, hstored⟩ := ih
      obtain ⟨httl', hstored', -⟩ := @rankAgents_spec hash llm _ call _ hstored
      rw [after, List.foldl_append]
      exact ⟨httl'.trans httl, hstored'⟩

theorem mem_ids_of_shown {agents agents' : List AgentRecord} {id : String}
    (h : (agents.map AgentRecord.shown).toFinset = (agents'.map AgentRecord.shown).toFinset)
    (hid : id ∈ agents.map fun agent ↦ agent.agentId.str) :
    id ∈ agents'.map fun agent ↦ agent.agentId.str := by
  obtain ⟨agent, hmem, rfl⟩ := List.mem_map.mp hid
  have hshown : agent.shown ∈ (agents.map AgentRecord.shown).toFinset :=
    List.mem_toFinset.mpr (List.mem_map_of_mem hmem)
  rw [h, List.mem_toFinset, List.mem_map] at hshown
  obtain ⟨other, hother, heq⟩ := hshown
  have hagent : other.agentId = agent.agentId := congrArg Prod.fst heq
  rw [← hagent]
  exact List.mem_map_of_mem hother

/-- Calls that show the same agents get the same answer. -/
theorem callAgent_congr {intent : String} {agents agents' : List AgentRecord}
    (h : (agents.map AgentRecord.shown).toFinset = (agents'.map AgentRecord.shown).toFinset) :
    callAgent llm intent agents = callAgent llm intent agents' := by
  have hvalid : validResults agents = validResults agents' := by
    funext results
    apply List.filter_congr
    intro result _
    apply decide_eq_decide.mpr
    exact ⟨mem_ids_of_shown h, mem_ids_of_shown h.symm⟩
  rw [callAgent, callAgent, h, hvalid]

/-- Every call is answered by the language model's answer to itself or to a fresh
earlier one with its intent and the hash of its ids, and as without the cache if all
of those showed the same agents. -/
theorem rankAgents_eq (hash : List UUID → Int) (llm : MatchModel) (ttl : Time)
    (calls : List RankCall) (call : RankCall) :
    let ranking := ((after hash llm { cacheTtl := ttl } calls).rankAgents hash llm call).2
    (∃ source, (source = call ∨ source ∈ calls ∧ call.Recalls hash ttl source) ∧
      ranking = call.rankedBy llm source) ∧
      ((∀ source ∈ calls, call.Recalls hash ttl source →
        (source.agents.map AgentRecord.shown).toFinset =
          (call.agents.map AgentRecord.shown).toFinset) → ranking = call.rankedBy llm call) := by
  obtain ⟨httl, hstored⟩ := @stored_after hash llm ttl calls
  obtain ⟨-, -, source, hsource, hranking⟩ := @rankAgents_spec hash llm _ call _ hstored
  rw [httl] at hsource
  refine ⟨⟨source, hsource, hranking⟩, ?_⟩
  intro hsame
  rcases hsource with rfl | ⟨hmem, hrecalls⟩
  · exact hranking
  · refine hranking.trans ?_
    rw [RankCall.rankedBy, RankCall.rankedBy, hrecalls.intent,
      callAgent_congr (hsame source hmem hrecalls)]

def sampleAgent (capability : String) : AgentRecord where
  agentId := ⟨1⟩
  tenantId := "acme"
  connId := ""
  capabilities := [capability]
  lastSeen := 0
  registeredAt := 0

theorem sampleScore_mem : (0 : ℚ) ≤ 1 ∧ (1 : ℚ) ≤ 1 := ⟨zero_le_one, le_rfl⟩

/-- The agent can do what its first capability says. -/
def sampleModel : MatchModel := fun intent shown ↦
  if (⟨1⟩, none, [intent]) ∈ shown then some [sampleResult (UUID.str ⟨1⟩) 1 sampleScore_mem]
  else some []

def sampleCall (capability : String) (now : Time) : RankCall where
  intent := "translate"
  agents := [sampleAgent capability]
  now := now
  stored := now

theorem callAgent_sample :
    callAgent sampleModel "translate" [sampleAgent "translate"] =
      some [sampleResult (UUID.str ⟨1⟩) 1 sampleScore_mem] := by
  have hshown : ((⟨1⟩ : UUID), (none : Option String), ["translate"]) ∈
      ([sampleAgent "translate"].map AgentRecord.shown).toFinset := by
    rw [List.mem_toFinset]
    exact List.mem_singleton_self _
  rw [callAgent, sampleModel, if_pos hshown, Option.map_some, validResults, List.filter_cons_of_pos,
    List.filter_nil]
  exact decide_eq_true (List.mem_singleton_self _)

theorem callAgent_sample_changed :
    callAgent sampleModel "translate" [sampleAgent "summarize"] = some [] := by
  have hshown : ((⟨1⟩ : UUID), (none : Option String), ["translate"]) ∉
      ([sampleAgent "summarize"].map AgentRecord.shown).toFinset := by
    rw [List.mem_toFinset]
    decide
  rw [callAgent, sampleModel, if_neg hshown]
  rfl

theorem rankedBy_of_answer {source : RankCall} {results : List MatchResult}
    (hagents : call.agents ≠ [])
    (hanswer : callAgent llm source.intent source.agents = some results) :
    call.rankedBy llm source = rankResults call.agents results call.topK call.threshold := by
  rw [RankCall.rankedBy, if_neg hagents, hanswer]

theorem rankAgents_of_miss {results : List MatchResult} (hagents : call.agents ≠ [])
    (hget : m.cache.get? (getCacheKey hash call.intent call.agents) = none)
    (hanswer : callAgent llm call.intent call.agents = some results) :
    m.rankAgents hash llm call =
      ({ m with
          cache := m.cache.insert (getCacheKey hash call.intent call.agents) (results, call.stored) },
        rankResults call.agents results call.topK call.threshold) := by
  simp only [rankAgents, if_neg hagents, getCachedResults, hget, hanswer]

theorem rankAgents_of_hit {results : List MatchResult} {timestamp : Time}
    (hagents : call.agents ≠ [])
    (hget : m.cache.get? (getCacheKey hash call.intent call.agents) = some (results, timestamp))
    (hfresh : call.now - timestamp < m.cacheTtl) :
    m.rankAgents hash llm call =
      (m, rankResults call.agents results call.topK call.threshold) := by
  simp only [rankAgents, if_neg hagents, getCachedResults, hget, if_pos hfresh]

/-- A single result that reaches the threshold leaves its agent in the ranking. -/
theorem rankResults_sample :
    rankResults [sampleAgent "summarize"] [sampleResult (UUID.str ⟨1⟩) 1 sampleScore_mem] 3 (1 / 2) ≠
      [] := by
  intro hnil
  let result := sampleResult (UUID.str ⟨1⟩) 1 sampleScore_mem
  have hlisted : entries [sampleAgent "summarize"] [result] (1 / 2) = [result] := by
    rw [entries, List.filter_cons_of_pos, List.filter_nil]
    exact decide_eq_true ⟨List.mem_singleton_self _, by norm_num [result, sampleResult]⟩
  obtain ⟨toAgent, -, hrank⟩ := exists_ranked [sampleAgent "summarize"] [result] (1 / 2)
  have hempty := (hrank 3).symm.trans hnil
  rw [hlisted, sortDesc, List.mergeSort_singleton] at hempty
  simp [sliceTo] at hempty

/-- The agent reconnects with another capability, and is still ranked for the old
one. -/
theorem not_rankAgents_eq_of_reconnect :
    ¬ ∀ (hash : List UUID → Int) (llm : MatchModel) (ttl : Time) (calls : List RankCall)
      (call : RankCall), ((after hash llm { cacheTtl := ttl } calls).rankAgents hash llm call).2 =
        call.rankedBy llm call := by
  intro h
  let first := sampleCall "translate" 0
  let second := sampleCall "summarize" 1
  let start : SemanticMatcher := { cacheTtl := 300000000 }
  have hfirst := @rankAgents_of_miss (fun _ ↦ 0) _ start first _ (List.cons_ne_nil _ _)
    (Dict.get?_empty _) callAgent_sample
  have hsecond := @rankAgents_of_hit (fun _ ↦ 0) sampleModel
    (start.rankAgents (fun _ ↦ 0) sampleModel first).1 second _ 0 (List.cons_ne_nil _ _)
    (by rw [hfirst]; exact Dict.get?_insert_self _ _ _) (by rw [hfirst]; decide)
  have heq := h (fun _ ↦ 0) sampleModel 300000000 [first] second
  rw [after, List.foldl_cons, List.foldl_nil, hsecond, rankedBy_of_answer (List.cons_ne_nil _ _)
    callAgent_sample_changed] at heq
  refine rankResults_sample (heq.trans ?_)
  simp [rankResults, sortDesc, sliceTo]

end SemanticMatcher

end SemanticBus
