import ServiceWriter.Proofs.Text.CodePoints
import ServiceWriter.Defect.Basic

/-!
# What a word file answers

A word file remembers nothing but what its text says (`WordFile.IsSound`), so that a question has the
same answer whatever was asked before (`WordFile.askAll_of_isSound`). What the text says depends on its
two lists. If both are there, a name is reserved in a language if it is in the list of that language
(`answer_of_wordLists`). If one is not, no question is answered at all, and the list for C# is the first
to be missed (`answer_of_no_csharp`, `answer_of_no_typeScript`).
-/

set_option autoImplicit false

namespace ServiceWriter

open Text

/-! ## The lists of a document -/

/-- The document is an object whose entry for the language is a list of these strings. -/
def Json.HasWordList (document : Json) (language : Language) (words : List CodePoints) : Prop :=
  document.get? language.name = some (.array (words.map .string))

theorem Json.strings?_eq_some_iff {items : List Json} {words : List CodePoints} :
    strings? items = some words ↔ items = words.map .string := by
  induction items generalizing words with
  | nil => cases words <;> simp [strings?]
  | cons item rest ih =>
    cases item with
    | string s =>
      rw [strings?, Option.map_eq_some_iff]
      cases words with
      | nil => simp
      | cons word words => simp [ih, and_comm]
    | _ => cases words <;> simp [strings?]

section

variable {document : Json} {language : Language}

theorem readWordList_of_hasWordList {words : List CodePoints}
    (listed : document.HasWordList language words) :
    readWordList document language = .ok (words.filterMap (·.text?)) := by
  rw [Json.HasWordList] at listed
  rw [readWordList, listed]
  simp only [Json.strings?_eq_some_iff.mpr rfl]

theorem readWordList_of_no_wordList (unlisted : ¬ ∃ words, document.HasWordList language words) :
    readWordList document language = .error (.badList language) := by
  unfold readWordList
  split
  · next items entry =>
    split
    · next words strings =>
      refine absurd ⟨words, ?_⟩ unlisted
      rw [Json.HasWordList, entry, Json.strings?_eq_some_iff.mp strings]
    · rfl
  · rfl

end

/-- A name is in a list that was read if its row of code points is in the document's list. -/
theorem contains_texts (words : List CodePoints) (name : String) :
    (words.filterMap (·.text?)).contains name = decide (CodePoints.ofString name ∈ words) := by
  rw [Bool.eq_iff_iff, List.contains_iff_mem, CodePoints.mem_filterMap_text?_iff, decide_eq_true_iff]

namespace ReservedWords

/-- What is read of a text is asked for a name and a language. -/
def answer (text : String) (name : String) (language : Language) : Except WordFileError Bool :=
  (ReservedWords.read text).map (·.contains language name)

variable {text : String} {document : Json}

theorem answer_of_notJson (notJson : Json.parse? text = none) (name : String)
    (language : Language) : answer text name language = .error .notJson := by
  simp only [answer, ReservedWords.read, notJson]
  rfl

variable (parsed : Json.parse? text = some document)
include parsed

theorem answer_of_wordLists {words : Language → List CodePoints}
    (listed : ∀ language, document.HasWordList language (words language)) (name : String)
    (language : Language) :
    answer text name language = .ok (decide (CodePoints.ofString name ∈ words language)) := by
  have csharp := readWordList_of_hasWordList (listed .csharp)
  have typeScript := readWordList_of_hasWordList (listed .typescript)
  simp only [answer, ReservedWords.read, parsed, csharp, typeScript]
  rw [← contains_texts]
  cases language <;> rfl

theorem answer_of_no_csharp (unlisted : ¬ ∃ words, document.HasWordList .csharp words)
    (name : String) (language : Language) :
    answer text name language = .error (.badList .csharp) := by
  have csharp := readWordList_of_no_wordList unlisted
  simp only [answer, ReservedWords.read, parsed, csharp]
  rfl

theorem answer_of_no_typeScript {words : List CodePoints}
    (listed : document.HasWordList .csharp words)
    (unlisted : ¬ ∃ words, document.HasWordList .typescript words) (name : String)
    (language : Language) : answer text name language = .error (.badList .typescript) := by
  have csharp := readWordList_of_hasWordList listed
  have typeScript := readWordList_of_no_wordList unlisted
  simp only [answer, ReservedWords.read, parsed, csharp, typeScript]
  rfl

end ReservedWords

/-! ## Questions one after another -/

namespace WordFile

/-- What a file remembers is what its text says. -/
def IsSound (file : WordFile) : Prop :=
  ∀ words, file.loaded = some words → ReservedWords.read file.text = .ok words

variable {file : WordFile}

theorem isSound_fresh (text : String) : IsSound { text } := by
  intro words loaded
  cases loaded

/-- **The lists are what the text says,** remembered or not, and what is left is sound again. -/
theorem load_of_isSound (sound : file.IsSound) :
    file.load.1 = ReservedWords.read file.text ∧ file.load.2.IsSound ∧
      file.load.2.text = file.text := by
  unfold load
  split
  · next words loaded => exact ⟨(sound words loaded).symm, sound, rfl⟩
  · split
    · next words read =>
      refine ⟨read.symm, ?_, rfl⟩
      intro words' loaded
      rw [← Option.some.inj loaded]
      exact read
    · next e failed => exact ⟨failed.symm, sound, rfl⟩

theorem ask_of_isSound (sound : file.IsSound) (name : String) (language : Language) :
    (file.ask name language).1 = ReservedWords.answer file.text name language := by
  rw [ReservedWords.answer, ← (load_of_isSound sound).1]
  rfl

theorem askAll_of_isSound (sound : file.IsSound) (questions : List (String × Language)) :
    file.askAll questions = questions.map fun question =>
      ReservedWords.answer file.text question.1 question.2 := by
  induction questions generalizing file with
  | nil => rfl
  | cons question rest ih =>
    obtain ⟨_, soundAfter, sameText⟩ := load_of_isSound sound
    have later := ih soundAfter
    rw [sameText] at later
    rw [List.map_cons, ← later, ← ask_of_isSound sound]
    rfl

end WordFile

/-- The cause that is reported for a word file. A text that is not JSON is not among the causes. -/
def WordFileError.cause? : WordFileError → Option Cause
  | .notJson => none
  | .badList language => some (.badWordList language)

/-- **What a word file remembers does not show.** Each of a list of questions, asked one after another,
is answered as if it were the only one. If the text of the file is an object with a list of strings
for each language, the answer is whether the name is in the list of the language. If a list is missing
or is not a list of strings, every question fails alike, whatever language it is about: for the list of
C#, or, if that one is there, for the list of TypeScript, with an internal error. If the text is not
JSON, every question fails for that. -/
theorem questions_answered_alone (text : String) (questions : List (String × Language)) :
    let fresh : WordFile := { text }
    let answers := fresh.askAll questions
    answers = questions.map (fun question => (fresh.ask question.1 question.2).1) ∧
    (∀ document, Json.parse? text = some document →
      (∀ words : Language → List CodePoints,
        (∀ language, document.HasWordList language (words language)) →
        answers = questions.map fun question =>
          .ok (decide (CodePoints.ofString question.1 ∈ words question.2))) ∧
      ((∀ words, ¬ document.HasWordList .csharp words) →
        answers = questions.map fun _ => .error (.badList .csharp)) ∧
      (∀ csharp, document.HasWordList .csharp csharp →
        (∀ words, ¬ document.HasWordList .typescript words) →
        answers = questions.map fun _ => .error (.badList .typescript))) ∧
    (Json.parse? text = none → answers = questions.map fun _ => .error .notJson) ∧
    ∀ language, (WordFileError.badList language).cause?.map
        (fun cause => (cause.code, cause.message)) =
      some (.internalError, "Reserved word list for " ++ language.name ++ " is missing or malformed")
    := by
  intro fresh answers
  have answered : answers = questions.map fun question =>
      ReservedWords.answer text question.1 question.2 :=
    WordFile.askAll_of_isSound (WordFile.isSound_fresh text) questions
  refine ⟨?_, fun document parsed => ⟨fun words listed => ?_, fun unlisted => ?_,
    fun csharp listed unlisted => ?_⟩, fun notJson => ?_, fun _ => rfl⟩
  · rw [answered]
    exact List.map_congr_left fun question _ =>
      (WordFile.ask_of_isSound (WordFile.isSound_fresh text) question.1 question.2).symm
  · rw [answered]
    exact List.map_congr_left fun question _ =>
      ReservedWords.answer_of_wordLists parsed listed question.1 question.2
  · rw [answered]
    exact List.map_congr_left fun question _ =>
      ReservedWords.answer_of_no_csharp parsed (not_exists.mpr unlisted) question.1 question.2
  · rw [answered]
    exact List.map_congr_left fun question _ =>
      ReservedWords.answer_of_no_typeScript parsed listed (not_exists.mpr unlisted) question.1
        question.2
  · rw [answered]
    exact List.map_congr_left fun question _ =>
      ReservedWords.answer_of_notJson notJson question.1 question.2

/-- A document with a list for each language. -/
def Json.twoLists : Json :=
  .object [("csharp", .array [.text "in", .text "out"]), ("typescript", .array [.text "let"])]

/-- Two questions about one name, and one whose name is in the list of the other language. -/
theorem questions_answered_alone_twice :
    WordFile.askAll { text := "\x7b\"csharp\": [\"in\", \"out\"], \"typescript\": [\"let\"]\x7d" }
        [("let", .csharp), ("let", .typescript), ("out", .typescript)] =
      [.ok false, .ok true, .ok false] := by
  have parsed : Json.parse? "\x7b\"csharp\": [\"in\", \"out\"], \"typescript\": [\"let\"]\x7d" =
      some .twoLists := by rfl
  have listed : ∀ language : Language, Json.twoLists.HasWordList language
      (if language = .csharp then [.ofString "in", .ofString "out"] else [.ofString "let"]) := by
    rintro (_ | _) <;> rfl
  have answers := ((questions_answered_alone _
    [("let", .csharp), ("let", .typescript), ("out", .typescript)]).2.1 _ parsed).1 _ listed
  exact answers.trans (by decide +kernel)

end ServiceWriter
