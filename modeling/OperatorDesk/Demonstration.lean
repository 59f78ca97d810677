/-
This file holds the scripted agents of the demonstration. Each waits a while, then asks one
question, some with a timeout of their own.
-/

import OperatorDesk.Question

namespace OperatorDesk

/-- What a scripted agent does. Times are milliseconds. -/
structure Script where
  delay : Nat
  timeout : Option Nat
  /-- The question, once it has been given an id. -/
  question : String → Question

namespace Script

/-- Asks for a choice between three stores. -/
def cacheBackend : Script :=
  { delay := 1000, timeout := none
    question := fun id =>
      { Question.plain id "Which cache backend should the API use?" with
        agent := "agent-7", mission := "M-42", context := some "api/cache.rs"
        options := ["Redis", "SQLite", "In-process LRU"] } }

/-- Asks for a name. -/
def migrationName : Script :=
  { delay := 3000, timeout := none
    question := fun id =>
      { Question.plain id "What should the new migration be called?" with
        agent := "agent-3", mission := "M-42", allowsFreeText := true
        allowsBroadcast := true } }

/-- Asks what to do with unreliable tests, and does not wait for long. -/
def flakyTests : Script :=
  { delay := 5000, timeout := some 45000
    question := fun id =>
      { Question.plain id "Tests are flaky on CI. Retry or skip the suite?" with
        agent := "agent-2", mission := "M-43", options := ["retry", "skip"] } }

/-- The agents of the demonstration. -/
def all : List Script := [cacheBackend, migrationName, flakyTests]

end Script

end OperatorDesk
