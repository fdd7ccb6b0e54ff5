import Mathlib.Data.Finset.Basic
import SqlDialects.Proofs.Ddl.Companions

/-!
# Running statements

A database holds a set of tables and a set of sequences.  What is there cannot be made
again and what is missing cannot be dropped.  A statement is run as it is read, so a
name counts only as far as its quotes reach.
-/

namespace SqlDialects

open Sql
open Text (Points CodePoint)

inductive Statement where
  | createSequence (name : Points)
  | dropSequence (name : Points)
  | createTable (ifNotExists : Bool) (name : Points)
  | dropTable (ifExists : Bool) (name : Points)
  | insertIdentity (table : Points)
deriving DecidableEq, Repr

structure Database where
  tables : Finset Points
  sequences : Finset Points
deriving DecidableEq

namespace Statement

/-! ## Reading -/

def splitWords : List Lexeme → List CodePoint × List Lexeme
  | .symbol point :: rest => ((point :: (splitWords rest).1), (splitWords rest).2)
  | read => ([], read)

def ofWords? (words name : Points) (after : List Lexeme) : Option Statement :=
  if words = "CREATE SEQUENCE " ∧ after = [] then some (.createSequence name)
  else if words = "DROP SEQUENCE " ∧ after = [] then some (.dropSequence name)
  else if words = "DROP TABLE " ∧ after = [] then some (.dropTable false name)
  else if words = "DROP TABLE IF EXISTS " ∧ after = [] then some (.dropTable true name)
  else if words = "SET IDENTITY_INSERT " ∧ after = symbols " ON" then some (.insertIdentity name)
  else
    (TableReading.ofLexemes? [] (.name name :: after)).bind fun reading =>
      if words = "CREATE TABLE " then some (.createTable false reading.table)
      else if words = "CREATE TABLE IF NOT EXISTS " then some (.createTable true reading.table)
      else none

def ofLexemes? (read : List Lexeme) : Option Statement :=
  match splitWords read with
  | (words, .name name :: after) => ofWords? ⟨words⟩ name after
  | _ => none

def ofText? (quote : Char) (text : Points) : Option Statement :=
  (lexemes quote text).bind ofLexemes?

@[simp] theorem splitWords_map_symbol (words : List CodePoint) (name : Points)
    (after : List Lexeme) :
    splitWords (words.map Lexeme.symbol ++ .name name :: after) = (words, .name name :: after) := by
  induction words with
  | nil => rfl
  | cons point words ih => simp [splitWords, ih]

theorem ofLexemes?_symbols (words : String) (name : Points) (after : List Lexeme) :
    ofLexemes? (symbols words ++ .name name :: after) = ofWords? words name after := by
  rw [ofLexemes?, symbols, splitWords_map_symbol]

theorem ofText?_of_fragment {quote : Char} {text : Points} {words : String} {name : Points}
    {after : List Lexeme} (hText : Fragment quote text (symbols words ++ .name name :: after)) :
    ofText? quote text = ofWords? words name after := by
  rw [ofText?, hText.reads.lexemes_eq, Option.bind_some, ofLexemes?_symbols]

theorem ofText?_of_reading {quote : Char} {ifNotExists : Bool} {text : Points}
    {reading : TableReading}
    (hReading : TableReading.ofText? quote (Dialect.createTableHead ifNotExists) text =
      some reading) :
    ofText? quote text = some (.createTable ifNotExists reading.table) := by
  obtain ⟨read, hLexemes, hRead⟩ := Option.bind_eq_some_iff.1 hReading
  rw [ofText?, hLexemes, Option.bind_some]
  unfold TableReading.ofLexemes? at hRead
  split at hRead
  · next table rest hRest =>
    obtain ⟨words, hAppend, hWords⟩ := List.dropPrefix?_eq_some_iff.1 hRest
    obtain rfl : words = symbols (Dialect.createTableHead ifNotExists) := by
      simpa using hWords
    obtain ⟨⟨inside, after⟩, hClose, rfl⟩ := Option.map_eq_some_iff.1 hRead
    rw [hAppend, ofLexemes?_symbols]
    cases ifNotExists <;>
      simp [ofWords?, Dialect.createTableHead, TableReading.ofLexemes?, hClose]
  · cases hRead

section

variable {quote : Char} (hQuote : IsNameQuote quote) (name : Points)
include hQuote

theorem ofText?_createSequence :
    ofText? quote ("CREATE SEQUENCE " ++ enclose quote name) = some (.createSequence name) :=
  ofText?_of_fragment ((Fragment.name quote name).wordAppend hQuote
    (show IsWord "CREATE SEQUENCE ".toList by decide))

theorem ofText?_dropSequence :
    ofText? quote ("DROP SEQUENCE " ++ enclose quote name) = some (.dropSequence name) :=
  ofText?_of_fragment ((Fragment.name quote name).wordAppend hQuote
    (show IsWord "DROP SEQUENCE ".toList by decide))

theorem ofText?_dropTable (ifExists : Bool) :
    ofText? quote ((if ifExists then "DROP TABLE IF EXISTS " else "DROP TABLE ")
      ++ enclose quote name) = some (.dropTable ifExists name) := by
  cases ifExists
  · exact ofText?_of_fragment ((Fragment.name quote name).wordAppend hQuote
      (show IsWord "DROP TABLE ".toList by decide))
  · exact ofText?_of_fragment ((Fragment.name quote name).wordAppend hQuote
      (show IsWord "DROP TABLE IF EXISTS ".toList by decide))

theorem ofText?_insertIdentity :
    ofText? quote ("SET IDENTITY_INSERT " ++ enclose quote name ++ " ON") =
      some (.insertIdentity name) := by
  have hNamed := (Fragment.name quote name).appendWord hQuote
    (show IsWord " ON".toList by decide) (by decide)
  rw [Points.append_assoc]
  exact ofText?_of_fragment (hNamed.wordAppend hQuote
    (show IsWord "SET IDENTITY_INSERT ".toList by decide))

end

/-! ## Running -/

def exec : Statement → Database → Option Database
  | .createSequence name, database =>
    if name ∈ database.sequences then none
    else some { database with sequences := insert name database.sequences }
  | .dropSequence name, database =>
    if name ∈ database.sequences then
      some { database with sequences := database.sequences.erase name }
    else none
  | .createTable ifNotExists name, database =>
    if name ∈ database.tables then if ifNotExists then some database else none
    else some { database with tables := insert name database.tables }
  | .dropTable ifExists name, database =>
    if name ∈ database.tables then
      some { database with tables := database.tables.erase name }
    else if ifExists then some database else none
  | .insertIdentity table, database =>
    if table ∈ database.tables then some database else none

def execAll : List Statement → Database → Option Database
  | [], database => some database
  | statement :: statements, database => (statement.exec database).bind (execAll statements)

theorem execAll_append (first second : List Statement) (database : Database) :
    execAll (first ++ second) database = (execAll first database).bind (execAll second) := by
  induction first generalizing database with
  | nil => rfl
  | cons statement first ih => simp [execAll, ih, Option.bind_assoc]

def created? : Statement → Option Points
  | .createSequence name => some name
  | _ => none

def dropped? : Statement → Option Points
  | .dropSequence name => some name
  | _ => none

end Statement

/-! ## Texts -/

/-- Runs texts one by one; a text that is no statement fails. -/
def Database.run (quote : Char) : List Points → Database → Option Database
  | [], database => some database
  | text :: texts, database =>
    (Statement.ofText? quote text).bind fun statement =>
      (statement.exec database).bind (run quote texts)

def AreStatements (quote : Char) (texts : List Points) (statements : List Statement) : Prop :=
  List.Forall₂ (fun text statement => Statement.ofText? quote text = some statement)
    texts statements

def createdSequences (quote : Char) (texts : List Points) : List Points :=
  texts.filterMap fun text => (Statement.ofText? quote text).bind Statement.created?

def droppedSequences (quote : Char) (texts : List Points) : List Points :=
  texts.filterMap fun text => (Statement.ofText? quote text).bind Statement.dropped?

theorem AreStatements.append {quote : Char} {first second : List Points}
    {firstRead secondRead : List Statement} (hFirst : AreStatements quote first firstRead)
    (hSecond : AreStatements quote second secondRead) :
    AreStatements quote (first ++ second) (firstRead ++ secondRead) :=
  List.rel_append hFirst hSecond

section

variable {quote : Char} {texts : List Points} {statements : List Statement}
  (hTexts : AreStatements quote texts statements)
include hTexts

theorem AreStatements.run_eq (database : Database) :
    database.run quote texts = Statement.execAll statements database := by
  induction hTexts generalizing database with
  | nil => rfl
  | cons hText _ ih =>
      rw [Database.run, hText, Option.bind_some, Statement.execAll, funext ih]

theorem AreStatements.filterMap_eq (choose : Statement → Option Points) :
    (texts.filterMap fun text => (Statement.ofText? quote text).bind choose) =
      statements.filterMap choose := by
  induction hTexts with
  | nil => rfl
  | cons hText _ ih => simp [List.filterMap_cons, hText, ih]

end

end SqlDialects
