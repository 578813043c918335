import ModMerge.Proofs.Mod.InnerLines
import ModMerge.Proofs.Mod.Transcripts

/-!
# Lines and what they mean

`meaningLines` sets the lines of a script beside what they mean there. A survey that `Reads` such
lines passes them with these meanings, and it does so part by part (`reads_append`). So lines may
be exchanged within a script, and the survey followed from where it stands before them.
-/

namespace ModMerge

/-- A line as it stands in a script, and what it means there. -/
structure MeaningLine where
  raw : Line
  meaning : LineMeaning
deriving DecidableEq

/-- The lines of a script with what they mean, up to the first that is refused. -/
def meaningLines (modName : String) (script : List Char) : List MeaningLine :=
  ((Text.lines script).zip ((surveyedLines modName script).map (·.meaning))).map
    fun (raw, meaning) => { raw, meaning }

/-- Lines that follow `count` other lines in a script. -/
def numberedLines (count : Nat) : List Line → List ScriptLine
  | [] => []
  | raw :: rest =>
      { number := count + 1, raw, text := normalizeLine (count == 0) raw } ::
        numberedLines (count + 1) rest

theorem scriptLines_eq_numberedLines (script : List Char) :
    scriptLines script = numberedLines 0 (Text.lines script) := by
  suffices general : ∀ count lines, (lines.mapIdx fun index (raw : Line) =>
      ({ number := count + index + 1, raw, text := normalizeLine (count + index == 0) raw } :
        ScriptLine)) = numberedLines count lines by
    have same := general 0 (Text.lines script)
    simp only [Nat.zero_add] at same
    exact same
  intro count lines
  induction lines generalizing count with
  | nil => rfl
  | cons raw rest inductionHypothesis =>
      rw [List.mapIdx_cons, numberedLines, ← inductionHypothesis]
      simp only [Nat.add_zero, Nat.add_assoc, Nat.add_comm 1]

theorem numberedLines_append (count : Nat) (front back : List Line) :
    numberedLines count (front ++ back) =
      numberedLines count front ++ numberedLines (count + front.length) back := by
  induction front generalizing count with
  | nil => rfl
  | cons raw rest inductionHypothesis =>
      rw [List.cons_append, numberedLines, inductionHypothesis, numberedLines, List.length_cons,
        Nat.add_assoc, Nat.add_comm 1]
      rfl

theorem length_numberedLines (count : Nat) (lines : List Line) :
    (numberedLines count lines).length = lines.length := by
  induction lines generalizing count with
  | nil => rfl
  | cons raw rest inductionHypothesis =>
      rw [numberedLines, List.length_cons, inductionHypothesis, List.length_cons]

/-- Only the first line of a script can begin with a byte-order mark. -/
theorem forall₂_numberedLines_iff {reads : Line → LineMeaning → Prop} (count : Nat)
    (lines : List MeaningLine) :
    List.Forall₂ (fun (line : ScriptLine) meaning => reads line.text meaning)
        (numberedLines (count + 1) (lines.map (·.raw))) (lines.map (·.meaning)) ↔
      ∀ line ∈ lines, reads (normalizeLine false line.raw) line.meaning := by
  induction lines generalizing count with
  | nil => simp [numberedLines]
  | cons line rest inductionHypothesis =>
      rw [List.map_cons, List.map_cons, numberedLines, List.forall₂_cons, inductionHypothesis,
        List.forall_mem_cons]
      rfl

namespace Survey

variable {survey last : Survey} {count : Nat} {front back : List MeaningLine} {line : MeaningLine}

/-- The survey passes the lines, which follow `count` others, and they have these meanings. -/
structure Reads (survey : Survey) (count : Nat) (lines : List MeaningLine) (last : Survey) :
    Prop where
  ran : survey.run (numberedLines count (lines.map (·.raw))) = .ok last
  meanings : (survey.readings (numberedLines count (lines.map (·.raw)))).map (·.meaning) =
    lines.map (·.meaning)

/-- Lines are read part by part. -/
theorem reads_append :
    survey.Reads count (front ++ back) last ↔
      ∃ middle, survey.Reads count front middle ∧
        middle.Reads (count + front.length) back last := by
  constructor
  · rintro ⟨ran, meanings⟩
    rw [List.map_append, numberedLines_append, List.length_map] at ran meanings
    obtain ⟨middle, ranFront, ranBack⟩ := run_append_eq_ok.1 ran
    rw [readings_append ranFront, List.map_append, List.map_append] at meanings
    have sameLength : ((survey.readings (numberedLines count (front.map (·.raw)))).map
        (·.meaning)).length = (front.map (·.meaning)).length := by
      rw [List.length_map, length_readings ranFront, length_numberedLines, List.length_map,
        List.length_map]
    obtain ⟨meaningsFront, meaningsBack⟩ := List.append_inj meanings sameLength
    exact ⟨middle, ⟨ranFront, meaningsFront⟩, ⟨ranBack, meaningsBack⟩⟩
  · rintro ⟨middle, readsFront, readsBack⟩
    refine ⟨?_, ?_⟩
    · rw [List.map_append, numberedLines_append, List.length_map]
      exact run_append_eq_ok.2 ⟨middle, readsFront.ran, readsBack.ran⟩
    · rw [List.map_append, numberedLines_append, List.length_map, readings_append readsFront.ran,
        List.map_append, readsFront.meanings, readsBack.meanings, List.map_append]

/-- The first of some lines is read by a step. -/
theorem exists_reads_cons (reads : survey.Reads count (line :: back) last) :
    ∃ (surveyed : SurveyedLine) (next : Survey), surveyed.OfStep survey
        ⟨count + 1, line.raw, normalizeLine (count == 0) line.raw⟩ next ∧
      surveyed.meaning = line.meaning ∧ next.Reads (count + 1) back last := by
  obtain ⟨ran, meanings⟩ := reads
  rw [List.map_cons, numberedLines] at ran meanings
  obtain ⟨next, stepped, remaining⟩ := run_cons_eq_ok.1 ran
  obtain ⟨surveyed, ofStep, readings⟩ :=
    exists_readings_cons stepped (numberedLines (count + 1) (back.map (·.raw)))
  rw [readings, List.map_cons, List.map_cons] at meanings
  obtain ⟨same, later⟩ := List.cons.inj meanings
  exact ⟨surveyed, next, ofStep, same, ⟨remaining, later⟩⟩

/-- A line stands among the readings where it stands among the lines. -/
theorem Reads.exists_readings_split (reads : survey.Reads count (front ++ line :: back) last) :
    ∃ earlier surveyed later,
      survey.readings (numberedLines count ((front ++ line :: back).map (·.raw))) =
        earlier ++ surveyed :: later ∧
      earlier.map (·.meaning) = front.map (·.meaning) ∧
      surveyed.line =
        Text.trimRight (normalizeLine (count + front.length == 0) line.raw) ∧
      surveyed.meaning = line.meaning ∧ later.map (·.meaning) = back.map (·.meaning) := by
  obtain ⟨earlier, _, readings, earlierMeanings, isRest⟩ :=
    List.map_eq_append_iff.1 (reads.meanings.trans List.map_append)
  obtain ⟨surveyed, later, rfl, meaning, laterMeanings⟩ := List.map_eq_cons_iff.1 isRest
  have lines := map_line_readings reads.ran
  have sameLength : (earlier.map (·.line)).length = front.length := by
    rw [List.length_map, ← List.length_map (·.meaning), earlierMeanings, List.length_map]
  rw [readings, List.map_append, List.map_cons, List.map_append, numberedLines_append,
    List.map_append, List.length_map] at lines
  obtain ⟨-, linesHere⟩ := List.append_inj lines
    (by rw [sameLength, List.length_map, length_numberedLines, List.length_map])
  exact ⟨earlier, surveyed, later, readings, earlierMeanings, (List.cons.inj linesHere).1, meaning,
    laterMeanings⟩

end Survey

/-- The lines of a script that is read to its end are those that a survey of it reads. -/
theorem meaningLines_eq_iff {modName : String} {script : List Char} {last : Survey}
    {lines : List MeaningLine} :
    (Survey.ofScript modName script = .ok last ∧ meaningLines modName script = lines) ↔
      (Text.lines script = lines.map (·.raw) ∧
        ({ definition := { modName } } : Survey).Reads 0 lines last) := by
  rw [Survey.ofScript, scriptLines_eq_numberedLines]
  constructor
  · rintro ⟨surveyed, rfl⟩
    have sameLength : ((surveyedLines modName script).map (·.meaning)).length =
        (Text.lines script).length := by
      rw [List.length_map, surveyedLines, scriptLines_eq_numberedLines,
        Survey.length_readings surveyed, length_numberedLines]
    have raws : (meaningLines modName script).map (·.raw) = Text.lines script := by
      rw [meaningLines, List.map_map]
      exact List.map_fst_zip sameLength.ge
    have meanings : (meaningLines modName script).map (·.meaning) =
        (surveyedLines modName script).map (·.meaning) := by
      rw [meaningLines, List.map_map]
      exact List.map_snd_zip sameLength.le
    refine ⟨raws.symm, raws ▸ surveyed, ?_⟩
    rw [raws, meanings, surveyedLines, scriptLines_eq_numberedLines]
  · rintro ⟨raws, ran, meanings⟩
    refine ⟨raws ▸ ran, ?_⟩
    rw [meaningLines, surveyedLines, scriptLines_eq_numberedLines, raws, meanings, List.zip_map',
      List.map_map]
    exact List.map_id lines

end ModMerge
