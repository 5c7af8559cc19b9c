import Mathlib.Data.List.Basic
import TableLayout.Logging

/-!
# Logging after any calls

Whatever calls were made, logging is as the last of them left it that knew its level. Then there is
one handler, at the root, where every event comes by that reaches the rank of its logger, so that
each leaves one line.

- `Logging.configured_configured`: a call leaves nothing of the calls before it.
- `Logging.run_of_last`: the run lemma, from `Logging.call_of_known` and `Logging.call_of_unknown`
  for one call.
- `Logging.Below`, `Logging.mem_named_iff`: the loggers that a logger takes its rank from.
- `Logging.effective_of_quiet`, `Logging.effective_of_not_quiet`: the ranks that loggers write.
- `Logging.written_configured`, `Logging.texts_configured`: the lines that events leave, and their
  texts.
- `Logging.last_known_call_decides`: all of this after any calls of which one knew its level.
-/

namespace TableLayout.Logging

variable {logging : Logging} {json : Bool} {level : String} {rank : Nat}

/-! ## One call -/

/-- Names are looked at in this order: a quiet logger, the root, and all the others, which keep
their ranks. -/
theorem rank_configured (name : String) :
    (logging.configured json rank).rank name =
      if name ∈ quietLoggers then max rank Level.warning.rank
      else if name = root then rank else logging.rank name := by
  simp only [configured, quietLoggers, List.foldl_cons, List.foldl_nil, setRank, setHandlers]
  by_cases hsql : name = "sqlalchemy"
  · simp [hsql]
  · by_cases hdyn : name = "dynaconf"
    · simp [hdyn]
    · simp [hsql, hdyn]

/-- The handlers of the root are replaced, all others stay. -/
theorem handlers_configured (name : String) :
    (logging.configured json rank).handlers name =
      if name = root then [⟨json⟩] else logging.handlers name := rfl

theorem relays_configured : (logging.configured json rank).relays = true := rfl

/-- A call leaves nothing of a call before it. -/
theorem configured_configured (json' : Bool) (rank' : Nat) :
    (logging.configured json rank).configured json' rank' = logging.configured json' rank' := by
  -- Three cases for the name, and in each of them the second call alone decides.
  have hrank : ((logging.configured json rank).configured json' rank').rank =
      (logging.configured json' rank').rank := by
    funext name
    rw [rank_configured, rank_configured, rank_configured]
    split_ifs <;> rfl
  have hhandlers : ((logging.configured json rank).configured json' rank').handlers =
      (logging.configured json' rank').handlers := by
    funext name
    rw [handlers_configured, handlers_configured, handlers_configured]
    split_ifs <;> rfl
  exact congrArg₂ (fun rank handlers => (⟨rank, handlers, true⟩ : Logging)) hrank hhandlers

/-- A call that knows its level succeeds, whatever logging it finds, and replaces that. -/
theorem call_of_known (h : rank? (Text.upper level) = some rank) :
    (call json level).run logging = (.ok (), logging.configured json rank) := by
  rw [call, h]
  rfl

/-- A call that does not know its level fails before it changes anything. -/
theorem call_of_unknown (h : rank? (Text.upper level) = none) :
    (call json level).run logging = (.error (Text.upper level), logging) := by
  rw [call, h]
  rfl

/-! ## Several calls -/

/-- The first call comes first. -/
theorem run_cons (call : Bool × String) (calls : List (Bool × String)) :
    logging.run (call :: calls) = (((Logging.call call.1 call.2).run logging).2).run calls := rfl

theorem run_append (before after : List (Bool × String)) :
    logging.run (before ++ after) = (logging.run before).run after :=
  List.foldl_append

/-- Calls that do not know their levels change nothing. -/
theorem run_of_unknown {calls : List (Bool × String)}
    (h : ∀ call ∈ calls, rank? (Text.upper call.2) = none) : logging.run calls = logging := by
  induction calls with
  | nil => rfl
  | cons call calls ih =>
    obtain ⟨hcall, hrest⟩ := List.forall_mem_cons.mp h
    rw [run_cons, call_of_unknown hcall]
    exact ih hrest

/-- Calls leave nothing behind that a known one after them does not replace. -/
theorem configured_run (calls : List (Bool × String)) :
    (logging.run calls).configured json rank = logging.configured json rank := by
  induction calls generalizing logging with
  | nil => rfl
  | cons call calls ih =>
    rw [run_cons, ih]
    cases h : rank? (Text.upper call.2) with
    | some rank' => rw [call_of_known h, configured_configured]
    | none => rw [call_of_unknown h]

/-- The last call that knows its level decides, whatever stood before it. -/
theorem run_of_last {before after : List (Bool × String)}
    (hknown : rank? (Text.upper level) = some rank)
    (hafter : ∀ call ∈ after, rank? (Text.upper call.2) = none) :
    logging.run (before ++ (json, level) :: after) = logging.configured json rank := by
  rw [run_append, run_cons, call_of_known hknown, configured_run, run_of_unknown hafter]

/-- Where one of several calls knows its level, there is a last one that does. -/
theorem exists_last_known {calls : List (Bool × String)}
    (h : ∃ call ∈ calls, (rank? (Text.upper call.2)).isSome) :
    ∃ before json level after rank, calls = before ++ (json, level) :: after ∧
      rank? (Text.upper level) = some rank ∧
      ∀ call ∈ after, rank? (Text.upper call.2) = none := by
  induction calls with
  | nil => simp at h
  | cons call calls ih =>
    -- The last known call is a later one if there is any, and otherwise the first.
    by_cases hlater : ∃ call ∈ calls, (rank? (Text.upper call.2)).isSome
    · obtain ⟨before, json, level, after, rank, rfl, hknown, hafter⟩ := ih hlater
      exact ⟨call :: before, json, level, after, rank, rfl, hknown, hafter⟩
    · have hafter : ∀ call ∈ calls, rank? (Text.upper call.2) = none := by
        intro call hcall
        by_contra hsome
        exact hlater ⟨call, hcall, Option.isSome_iff_ne_none.mpr hsome⟩
      obtain ⟨found, hfound, hsome⟩ := h
      rcases List.mem_cons.mp hfound with rfl | hmem
      · obtain ⟨rank, hrank⟩ := Option.isSome_iff_exists.mp hsome
        exact ⟨[], found.1, found.2, calls, rank, rfl, hrank, hafter⟩
      · exact absurd ⟨found, hmem, hsome⟩ hlater

/-! ## Names -/

/-- A logger has a name or is below the logger of that name. -/
def Below (name logger : String) : Prop :=
  logger = name ∨ ∃ rest, logger = name ++ "." ++ rest

/-- The stems of a name are what stands before one of its points. -/
theorem mem_stems_iff {stem cs : List Char} :
    stem ∈ stems cs ↔ ∃ rest, cs = stem ++ '.' :: rest := by
  induction cs generalizing stem with
  | nil => simp [stems]
  | cons c cs ih =>
    rw [stems, List.mem_append, List.mem_map]
    -- The empty stem stands before a first point; any other one begins as the name does.
    cases stem with
    | nil =>
      constructor
      · rintro (h | ⟨_, -, h⟩)
        · split at h
          · next hpoint => exact ⟨cs, by rw [hpoint]; rfl⟩
          · cases h
        · cases h
      · rintro ⟨rest, h⟩
        obtain ⟨rfl, rfl⟩ := List.cons.inj h
        exact .inl (by simp)
    | cons first stem =>
      constructor
      · rintro (h | ⟨_, hstem, h⟩)
        · split at h
          · simp at h
          · cases h
        · obtain ⟨rfl, rfl⟩ := List.cons.inj h
          obtain ⟨rest, rfl⟩ := ih.mp hstem
          exact ⟨rest, rfl⟩
      · rintro ⟨rest, h⟩
        obtain ⟨rfl, rfl⟩ := List.cons.inj h
        exact .inr ⟨stem, ih.mpr ⟨rest, rfl⟩, rfl⟩

/-- A logger has a logger above it for every stem of its name, and itself, but never the root. -/
theorem mem_named_iff {name logger : String} :
    name ∈ named logger ↔ name ≠ root ∧ Below name logger := by
  unfold named Below root
  simp only [List.mem_map, List.mem_filter, List.mem_cons, List.mem_reverse, mem_stems_iff]
  constructor
  · rintro ⟨cs, ⟨hcs, hne⟩, rfl⟩
    refine ⟨?_, ?_⟩
    · rintro h
      simp_all
    · rcases hcs with rfl | ⟨rest, hrest⟩
      · exact .inl String.ofList_toList.symm
      · refine .inr ⟨String.ofList rest, String.toList_inj.mp ?_⟩
        rw [hrest]
        simp
  · rintro ⟨hne, hbelow⟩
    refine ⟨name.toList, ⟨?_, ?_⟩, String.ofList_toList⟩
    · rcases hbelow with rfl | ⟨rest, rfl⟩
      · exact .inl rfl
      · exact .inr ⟨rest.toList, by simp⟩
    · simpa using hne

theorem ne_root_of_quiet {name : String} (h : name ∈ quietLoggers) : name ≠ root := by
  rintro rfl
  exact absurd h (by decide)

/-! ## Ranks and lines -/

/-- A logger is one of the quiet ones or below one. -/
def Quiet (logger : String) : Prop :=
  ∃ name ∈ quietLoggers, Below name logger

/-- Among the loggers above a logger only quiet ones have a rank after a call at the start. -/
theorem rank_of_mem_named {name logger : String} (h : name ∈ named logger) :
    (initial.configured json rank).rank name =
      if name ∈ quietLoggers then max rank Level.warning.rank else 0 := by
  have hne : name ≠ root := (mem_named_iff.mp h).1
  rw [rank_configured, if_neg hne]
  simp [initial, hne]

/-- The root has the rank of the call. -/
theorem rank_root : (initial.configured json rank).rank root = rank := by
  rw [rank_configured, if_neg (by decide), if_pos rfl]

/-- Quiet loggers and those below them write warnings at least. -/
theorem effective_of_quiet {logger : String} (h : Quiet logger) :
    (initial.configured json rank).effective logger = max rank Level.warning.rank := by
  obtain ⟨quiet, hquiet, hbelow⟩ := h
  have hmem : quiet ∈ named logger := mem_named_iff.mpr ⟨ne_root_of_quiet hquiet, hbelow⟩
  have hpositive : 0 < max rank Level.warning.rank :=
    Nat.lt_of_lt_of_le (by decide) (Nat.le_max_right rank Level.warning.rank)
  -- Some logger above has a rank, so the root is not asked.
  have hfound :
      (((named logger).map (initial.configured json rank).rank).find? (0 < ·)).isSome := by
    rw [List.find?_isSome]
    refine ⟨_, List.mem_map_of_mem hmem, ?_⟩
    rw [rank_of_mem_named hmem, if_pos hquiet]
    exact decide_eq_true hpositive
  obtain ⟨found, hfound⟩ := Option.isSome_iff_exists.mp hfound
  -- Only quiet loggers have a rank of their own here, and all have the same.
  obtain ⟨name, hname, hrank⟩ := List.mem_map.mp (List.mem_of_find?_eq_some hfound)
  have heq : found = max rank Level.warning.rank := by
    rw [rank_of_mem_named hname] at hrank
    split at hrank
    · exact hrank.symm
    · have hnot := List.find?_some hfound
      simp [← hrank] at hnot
  rw [effective, lineage, List.map_append, List.find?_append, hfound, heq]
  rfl

/-- All other loggers write from the rank of the call on. -/
theorem effective_of_not_quiet {logger : String} (h : ¬Quiet logger) :
    (initial.configured json rank).effective logger = rank := by
  -- No logger above has a rank, so the root is asked.
  have hnone : ((named logger).map (initial.configured json rank).rank).find? (0 < ·) = none := by
    refine List.find?_eq_none.mpr fun found hfound => ?_
    obtain ⟨name, hname, rfl⟩ := List.mem_map.mp hfound
    have hquiet : name ∉ quietLoggers := fun hquiet => h ⟨name, hquiet, (mem_named_iff.mp hname).2⟩
    rw [rank_of_mem_named hname, if_neg hquiet]
    simp
  rw [effective, lineage, List.map_append, List.find?_append, hnone, List.map_singleton, rank_root]
  -- A rank of zero at the root is not found, and is what is taken where none is found.
  rcases Nat.eq_zero_or_pos rank with rfl | hpositive
  · rfl
  · simp [hpositive]

/-- Every event comes by the handler at the root, and by no other. -/
theorem handlers_lineage (logger : String) :
    (lineage logger).flatMap (initial.configured json rank).handlers = [⟨json⟩] := by
  have hnone : (named logger).flatMap (initial.configured json rank).handlers = [] := by
    refine List.flatMap_eq_nil_iff.mpr fun name hname => ?_
    rw [handlers_configured, if_neg (mem_named_iff.mp hname).1]
    rfl
  rw [lineage, List.flatMap_append, hnone, List.flatMap_singleton, handlers_configured, if_pos rfl]
  rfl

/-- An event that reaches the rank of its logger comes by one handler and leaves one line, which
holds what the event brings, without the fields that a line has for its own use. On either channel
it gets to its logger, because structured events are handed on. -/
theorem written_configured (channel : Channel) (logger : String) (level : Level) (event : String)
    (fields : List (String × Datum)) :
    (initial.configured json rank).written channel logger level event fields =
      if (initial.configured json rank).effective logger ≤ level.rank then
        [{ json, level, event, fields := fields.filter fun field => field.1 ∉ ownFields }]
      else [] := by
  rw [written, relays_configured, if_neg (by simp), lines, handlers_lineage]
  rfl

/-- The form of the handler decides which rendering the line takes. -/
theorem texts_configured (rendering : Rendering) (time : String) (channel : Channel)
    (logger : String) (level : Level) (event : String) (fields : List (String × Datum)) :
    ((initial.configured json rank).written channel logger level event fields).map
        (Line.text rendering time) =
      if (initial.configured json rank).effective logger ≤ level.rank then
        [(if json then rendering.object else rendering.console) time level event
          (fields.filter fun field => field.1 ∉ ownFields)]
      else [] := by
  rw [written_configured]
  by_cases hreaches : (initial.configured json rank).effective logger ≤ level.rank
  · rw [if_pos hreaches, if_pos hreaches]
    cases json <;> rfl
  · rw [if_neg hreaches, if_neg hreaches]
    rfl

/-! ## All calls -/

/-- After calls with any names of levels, of which at least one is known, logging is what the last
call that knew its level makes of it at the start; a call that does not know its level fails and
changes nothing. The quiet loggers and those below them write warnings at least, all others write
from that level on, and an event on any channel leaves one line if it reaches the level of its
logger, and none otherwise. The line holds what the event brings and is written in the form of that
call, however the two forms are rendered. -/
theorem last_known_call_decides (calls : List (Bool × String))
    (hknown : ∃ call ∈ calls, (rank? (Text.upper call.2)).isSome) :
    ∃ before json level after rank, calls = before ++ (json, level) :: after ∧
      rank? (Text.upper level) = some rank ∧
      (∀ call ∈ after, rank? (Text.upper call.2) = none) ∧
      configure json level = .ok (initial.run calls) ∧
      (∀ call ∈ calls, rank? (Text.upper call.2) = none → ∀ logging : Logging,
        (Logging.call call.1 call.2).run logging = (.error (Text.upper call.2), logging)) ∧
      (∀ logger, Below "dynaconf" logger ∨ Below "sqlalchemy" logger →
        (initial.run calls).effective logger = max rank Level.warning.rank) ∧
      (∀ logger, ¬(Below "dynaconf" logger ∨ Below "sqlalchemy" logger) →
        (initial.run calls).effective logger = rank) ∧
      (∀ channel logger eventLevel event fields,
        (initial.run calls).written channel logger eventLevel event fields =
          if (initial.run calls).effective logger ≤ eventLevel.rank then
            [{ json, level := eventLevel, event,
               fields := fields.filter fun field => field.1 ∉
                 ["event", "level", "timestamp", "_record", "_from_structlog"] }]
          else []) ∧
      ∀ (rendering : Rendering) time channel logger eventLevel event fields,
        ((initial.run calls).written channel logger eventLevel event fields).map
            (Line.text rendering time) =
          if (initial.run calls).effective logger ≤ eventLevel.rank then
            [(if json then rendering.object else rendering.console) time eventLevel event
              (fields.filter fun field => field.1 ∉
                ["event", "level", "timestamp", "_record", "_from_structlog"])]
          else [] := by
  obtain ⟨before, json, level, after, rank, rfl, hrank, hafter⟩ := exists_last_known hknown
  have hquiet : ∀ logger, Quiet logger ↔ Below "dynaconf" logger ∨ Below "sqlalchemy" logger := by
    simp [Quiet, quietLoggers]
  refine ⟨before, json, level, after, rank, rfl, hrank, hafter, ?_, ?_, ?_⟩
  · rw [run_of_last hrank hafter, configure, call_of_known hrank]
  · exact fun call _ hunknown logging => call_of_unknown hunknown
  -- What comes before the last known call and after it is gone from here on.
  rw [run_of_last hrank hafter]
  refine ⟨fun logger h => effective_of_quiet ((hquiet logger).mpr h), fun logger h => ?_,
    written_configured, texts_configured⟩
  exact effective_of_not_quiet (mt (hquiet logger).mp h)

/-- A known level, one that raises it, and a last call that does not know its level. -/
def mixedCalls : List (Bool × String) :=
  [(true, "debug"), (false, "Error"), (true, "TRACE")]

theorem last_known_call_decides_mixedCalls :
    (∃ call ∈ mixedCalls, (rank? (Text.upper call.2)).isSome) ∧
      configure false "Error" = .ok (initial.run mixedCalls) ∧
      (initial.run mixedCalls).effective "dynaconf.loaders" = 40 ∧
      (initial.run mixedCalls).written .structured "dynaconf.loaders" .error "no file"
          [("name", .text "a"), ("level", .int 3)] =
        [⟨false, .error, "no file", [("name", .text "a")]⟩] ∧
      (∀ (rendering : Rendering) time,
        ((initial.run mixedCalls).written .structured "dynaconf.loaders" .error "no file"
            [("name", .text "a")]).map (Line.text rendering time) =
          [rendering.console time .error "no file" [("name", .text "a")]]) ∧
      (initial.run mixedCalls).written .direct "dynaconf.loaders" .warning "no file" [] = [] := by
  have hknown : ∃ call ∈ mixedCalls, (rank? (Text.upper call.2)).isSome :=
    ⟨(true, "debug"), by decide, by decide⟩
  obtain ⟨before, json, level, after, rank, hcalls, hrank, hafter, hconfigure, -, heffective, -,
    hwritten, htexts⟩ := last_known_call_decides mixedCalls hknown
  have hunknown : rank? (Text.upper "TRACE") = none := by decide
  have herror : rank? (Text.upper "Error") = some 40 := by decide
  -- The call that decides is not the first, which a known one follows, and not the last.
  obtain ⟨rfl, rfl⟩ : json = false ∧ level = "Error" := by
    rcases before with _ | ⟨_, _ | ⟨_, _ | ⟨_, before⟩⟩⟩ <;>
      simp only [mixedCalls, List.nil_append, List.cons_append, List.cons.injEq,
        Prod.mk.injEq] at hcalls
    · obtain ⟨-, rfl⟩ := hcalls
      have hnone := hafter (false, "Error") (by decide)
      rw [herror] at hnone
      cases hnone
    · obtain ⟨-, ⟨rfl, rfl⟩, -⟩ := hcalls
      exact ⟨rfl, rfl⟩
    · obtain ⟨-, -, ⟨-, rfl⟩, -⟩ := hcalls
      rw [hunknown] at hrank
      cases hrank
    · simp at hcalls
  obtain rfl : 40 = rank := Option.some.inj (herror.symm.trans hrank)
  have hloaders : (initial.run mixedCalls).effective "dynaconf.loaders" = 40 :=
    heffective _ (.inl (.inr ⟨"loaders", rfl⟩))
  refine ⟨hknown, hconfigure, hloaders, ?_, fun rendering time => ?_, ?_⟩
  · rw [hwritten, hloaders]
    rfl
  · rw [htexts, hloaders]
    rfl
  · rw [hwritten, hloaders]
    rfl

end TableLayout.Logging
