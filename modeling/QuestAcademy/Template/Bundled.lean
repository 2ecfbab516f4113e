import QuestAcademy.Template

namespace QuestAcademy.Bundled

def general : Collection :=
  { domain := "general"
    description := "General purpose reasoning and writing quests"
    templates := [
      { id := "general-summarize-note"
        title := "Summarize a short note"
        description := "Condense a short note into a single sentence that keeps every fact."
        difficulty := .trivial
        skills := ["summarization"]
        input := .map [
          ("text", .text "The supply cart arrives Tuesday. It carries flour, salt and lamp oil.")]
        criteria := ["accuracy", "brevity"] },
      { id := "general-classify-request"
        title := "Classify a request"
        description := "Label an incoming request as question, complaint or order."
        difficulty := .trivial
        skills := ["analysis"]
        input := .map [
          ("labels", .list [.text "question", .text "complaint", .text "order"]),
          ("request", .text "Where can I buy more arrows?")]
        criteria := ["accuracy"] },
      { id := "general-draft-reply"
        title := "Draft a polite reply"
        description := "Write a short, polite reply to a customer message."
        difficulty := .easy
        skills := ["communication", "writing"]
        input := .map [("message", .text "My order arrived late and the box was damaged.")]
        criteria := ["tone", "completeness"] },
      { id := "general-compare-options"
        title := "Compare two options"
        description := "Compare two proposals and recommend one with reasons."
        difficulty := .moderate
        skills := ["analysis", "writing"]
        input := .map [
          ("budget", .int 1200),
          ("options", .list [.text "repair the bridge", .text "build a ferry"])]
        criteria := ["reasoning", "clarity", "recommendation"] },
      { id := "general-plan-event"
        title := "Plan a festival"
        description := "Produce a schedule and resource plan for a three day festival."
        difficulty := .hard
        skills := ["analysis", "planning"]
        input := .map [
          ("constraints", .list [.text "one stage", .text "no open fires"]), ("days", .int 3),
          ("visitors", .int 4000)]
        criteria := ["feasibility", "completeness", "clarity"] },
      { id := "general-negotiate-treaty"
        title := "Negotiate a trade treaty"
        description :=
          "Mediate between three guilds with conflicting demands and draft the treaty."
        difficulty := .epic
        skills := ["analysis", "negotiation", "writing"]
        input := .map [
          ("parties", .list [.text "smiths", .text "miners", .text "merchants"]),
          ("rounds", .int 3)]
        criteria := ["fairness", "feasibility", "clarity", "completeness"] }] }

def software : Collection :=
  { domain := "software"
    description := "Software engineering quests"
    templates := [
      { id := "software-fix-typo"
        title := "Fix a failing assertion"
        description := "Find the off-by-one error that makes a single unit test fail."
        difficulty := .trivial
        skills := ["debugging"]
        input := .map [("failing_test", .text "test_range_end"), ("language", .text "rust")]
        criteria := ["correctness"] },
      { id := "software-write-tests"
        title := "Write unit tests"
        description := "Cover a small parsing function with unit tests, including edge cases."
        difficulty := .easy
        skills := ["coding", "testing"]
        input := .map [
          ("cases", .list [.text "1s", .text "250ms", .text ""]),
          ("function", .text "parse_duration")]
        criteria := ["coverage", "correctness"] },
      { id := "software-refactor-module"
        title := "Refactor a module"
        description := "Split a large module into cohesive parts without changing behavior."
        difficulty := .moderate
        skills := ["coding", "design"]
        input := .map [("lines", .int 1800), ("module", .text "billing")]
        criteria := ["correctness", "cohesion", "clarity"] },
      { id := "software-design-cache"
        title := "Design a cache layer"
        description :=
          "Design an eviction policy and invalidation scheme for a read-heavy service."
        difficulty := .hard
        skills := ["design", "performance"]
        input := .map [("reads_per_second", .int 50000), ("write_ratio", .float 0.02)]
        criteria := ["correctness", "performance", "clarity"] },
      { id := "software-migrate-storage"
        title := "Migrate the storage engine"
        description := "Plan and execute a zero-downtime migration between storage engines."
        difficulty := .epic
        skills := ["coding", "design", "operations"]
        input := .map [
          ("from", .text "postgres"), ("rows", .int 250000000), ("to", .text "foundationdb")]
        criteria := ["safety", "feasibility", "rollback", "clarity"] }] }

def research : Collection :=
  { domain := "research"
    description := "Research and investigation quests"
    templates := [
      { id := "research-extract-citation"
        title := "Extract a citation"
        description := "Pull the author, year and title out of a free-form reference."
        difficulty := .trivial
        skills := ["extraction"]
        input := .map [("reference", .text "Lovelace, A. (1843) Notes on the Analytical Engine.")]
        criteria := ["accuracy"] },
      { id := "research-literature-scan"
        title := "Scan the literature"
        description :=
          "List the five most relevant sources for a narrow question and justify each."
        difficulty := .moderate
        skills := ["analysis", "research"]
        input := .map [("question", .text "Does crop rotation reduce soil erosion on slopes?")]
        criteria := ["relevance", "justification"] },
      { id := "research-design-study"
        title := "Design a study"
        description := "Propose a study design with controls, sample size and threats to validity."
        difficulty := .hard
        skills := ["planning", "research"]
        input := .map [
          ("budget", .int 5000), ("hypothesis", .text "Mentored trainees level faster")]
        criteria := ["rigor", "feasibility", "clarity"] }] }

def collections : List Collection :=
  [general, software, research]

def domains : List String :=
  collections.map Collection.domain

def find? (domain : String) : Option Collection :=
  collections.find? fun collection => collection.domain = domain

end QuestAcademy.Bundled
