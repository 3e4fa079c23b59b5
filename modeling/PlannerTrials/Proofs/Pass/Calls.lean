import PlannerTrials.Pass.Basic

/-!
# The calls of a pass

A pass goes through its corpora and problems by nested recursion and takes the state of the world through
every run.  Seen from the solvers there is one flat list of calls, `Corpus.calls` of each
corpus after the other, and every call is answered in the state that the answers before it have left
(`answersTo`).  `answersTo_calls` says that the trials of a pass are these answers, two for each
problem and in this order, and `calls_trialsOf` says what they are answers to.

The answers depend on the state only through the invoker.  So a world that knows more than another one and
answers alike has the same trials (`trialsOf_map`), which is what allows a run to be
recorded without being changed.
-/

namespace PlannerTrials

/-- The calls for a corpus: both solvers on each problem, in the order of the problems. -/
def Corpus.calls (corpus : Corpus) : List Call :=
  corpus.problems.flatMap fun problem =>
    Solver.all.map fun solver => ⟨solver, corpus.description, problem.path⟩

/-- The answers of a trial in the order of its calls. -/
def Trial.answers (trial : Trial) : List Invocation := Solver.all.map trial.invocation

section Answers

variable {σ : Type} (invoke : Call → σ → Invocation × σ)

/-- The answers to calls, one after the other. -/
def answersTo : List Call → σ → List Invocation × σ
  | [], s => ([], s)
  | call :: rest, s =>
    let (answer, s) := invoke call s
    let (answers, s) := answersTo rest s
    (answer :: answers, s)

theorem answersTo_cons (call : Call) (rest : List Call) (s : σ) :
    answersTo invoke (call :: rest) s =
      ((invoke call s).1 :: (answersTo invoke rest (invoke call s).2).1,
        (answersTo invoke rest (invoke call s).2).2) := rfl

theorem answersTo_append (first rest : List Call) (s : σ) :
    answersTo invoke (first ++ rest) s =
      ((answersTo invoke first s).1 ++ (answersTo invoke rest (answersTo invoke first s).2).1,
        (answersTo invoke rest (answersTo invoke first s).2).2) := by
  induction first generalizing s with
  | nil => rfl
  | cons call first ih =>
    rw [List.cons_append, answersTo_cons, answersTo_cons, ih]
    rfl

theorem length_answersTo (calls : List Call) (s : σ) :
    (answersTo invoke calls s).1.length = calls.length := by
  induction calls generalizing s with
  | nil => rfl
  | cons call calls ih =>
    rw [answersTo_cons, List.length_cons, List.length_cons, ih]

/-! ## Trials as answers -/

theorem answersTo_problem (corpus : Corpus) (problem : Problem) (s : σ) :
    answersTo invoke (Solver.all.map fun solver => ⟨solver, corpus.description, problem.path⟩) s =
      ((trialOf invoke corpus problem s).1.answers, (trialOf invoke corpus problem s).2) := rfl

theorem answersTo_problems (corpus : Corpus) (problems : List Problem) (s : σ) :
    answersTo invoke (Corpus.calls { corpus with problems := problems }) s =
      ((trialsOn invoke corpus problems s).1.flatMap Trial.answers,
        (trialsOn invoke corpus problems s).2) := by
  induction problems generalizing s with
  | nil => rfl
  | cons problem problems ih =>
    have hcalls : Corpus.calls { corpus with problems := problem :: problems } =
        (Solver.all.map fun solver => ⟨solver, corpus.description, problem.path⟩) ++
          Corpus.calls { corpus with problems := problems } := List.flatMap_cons
    rw [hcalls, answersTo_append, answersTo_problem, ih, trialsOn]
    rfl

/-- **The trials of a pass are the answers to its calls**, and leave the same state. -/
theorem answersTo_calls (corpora : List Corpus) (s : σ) :
    answersTo invoke (corpora.flatMap Corpus.calls) s =
      ((trialsOf invoke corpora s).1.flatMap Trial.answers, (trialsOf invoke corpora s).2) := by
  induction corpora generalizing s with
  | nil => rfl
  | cons corpus corpora ih =>
    have hcorpus := answersTo_problems invoke corpus corpus.problems s
    rw [List.flatMap_cons, answersTo_append, hcorpus, ih, trialsOf]
    simp only [List.flatMap_append]

/-! ## What the trials are answers to -/

/-- What is known of a trial before it is run. -/
def Trial.subject (trial : Trial) : String × String × Problem :=
  (trial.domain, trial.description, trial.problem)

/-- What is known of the trials on a corpus before they are run. -/
def Corpus.subjects (corpus : Corpus) : List (String × String × Problem) :=
  corpus.problems.map fun problem => (corpus.domain, corpus.description, problem)

theorem map_subject_trialsOn (corpus : Corpus) (problems : List Problem) (s : σ) :
    (trialsOn invoke corpus problems s).1.map Trial.subject =
      Corpus.subjects { corpus with problems := problems } := by
  induction problems generalizing s with
  | nil => rfl
  | cons problem problems ih =>
    rw [trialsOn]
    simp only [List.map_cons, ih]
    rfl

/-- **There is one trial for each problem**, in the order of the corpora and of their problems. -/
theorem map_subject_trialsOf (corpora : List Corpus) (s : σ) :
    (trialsOf invoke corpora s).1.map Trial.subject = corpora.flatMap Corpus.subjects := by
  induction corpora generalizing s with
  | nil => rfl
  | cons corpus corpora ih =>
    rw [trialsOf, List.flatMap_cons]
    simp only [List.map_append, ih, map_subject_trialsOn]

/-- The calls of the trials are those for the corpora. -/
theorem calls_trialsOf (corpora : List Corpus) (s : σ) :
    (trialsOf invoke corpora s).1.flatMap Trial.calls = corpora.flatMap Corpus.calls := by
  have hsubjects : ∀ corpus : Corpus, corpus.calls = corpus.subjects.flatMap fun subject =>
      Solver.all.map fun solver => ⟨solver, subject.2.1, subject.2.2.path⟩ := fun corpus => by
    rw [Corpus.subjects, List.flatMap_map]
    rfl
  have hcorpora : corpora.flatMap Corpus.calls = (corpora.flatMap Corpus.subjects).flatMap
      fun subject => Solver.all.map fun solver => ⟨solver, subject.2.1, subject.2.2.path⟩ := by
    rw [List.flatMap_assoc]
    exact congrArg (fun calls => corpora.flatMap calls) (funext hsubjects)
  rw [hcorpora, ← map_subject_trialsOf invoke corpora s, List.flatMap_map]
  rfl

end Answers

/-- A pass is made of its trials. -/
theorem Pass.ofCorpora_eq {σ : Type} (invoke : Call → σ → Invocation × σ) (corpora : List Corpus)
    (s : σ) : Pass.ofCorpora invoke corpora s =
      (⟨corpora.length, (trialsOf invoke corpora s).1⟩, (trialsOf invoke corpora s).2) := rfl

/-! ## Worlds that answer alike -/

section Alike

variable {σ τ : Type} {invoke : Call → σ → Invocation × σ} {more : Call → τ → Invocation × τ}
  {forget : τ → σ}
  (halike : ∀ call t, invoke call (forget t) = ((more call t).1, forget (more call t).2))

include halike in
theorem trialOf_map (corpus : Corpus) (problem : Problem) (t : τ) :
    trialOf invoke corpus problem (forget t) =
      ((trialOf more corpus problem t).1, forget (trialOf more corpus problem t).2) := by
  simp only [trialOf, halike]

include halike in
theorem trialsOn_map (corpus : Corpus) (problems : List Problem) (t : τ) :
    trialsOn invoke corpus problems (forget t) =
      ((trialsOn more corpus problems t).1, forget (trialsOn more corpus problems t).2) := by
  induction problems generalizing t with
  | nil => rfl
  | cons problem problems ih =>
    rw [trialsOn, trialsOn]
    simp only [trialOf_map halike, ih]

include halike in
/-- **Invokers that answer alike have the same trials**, whatever else their states hold. -/
theorem trialsOf_map (corpora : List Corpus) (t : τ) :
    trialsOf invoke corpora (forget t) =
      ((trialsOf more corpora t).1, forget (trialsOf more corpora t).2) := by
  induction corpora generalizing t with
  | nil => rfl
  | cons corpus corpora ih =>
    rw [trialsOf, trialsOf]
    simp only [trialsOn_map halike, ih]

end Alike

end PlannerTrials
