import Unshare.Proofs.Commands
import Unshare.Proofs.Transactions

namespace Unshare.Database

inductive Value
  | null
  | text (value : String)
  | number (value : Int)
  | json (value : Json)
  -- microseconds from the start of 1970
  | instant (micros : Int)
  | texts (items : List String)

-- The columns of a row by their names.
abbrev Record := String → Value

-- The rows of every table by its name.
abbrev Tables := String → List Record

def Param.value : Param → Value
  | .null => .null
  | .text value => .text value
  | .number value => .number value
  | .json value => .json value

-- Equality as a condition asks for it: nothing equals null.
def Value.equals : Value → Param → Bool
  | .text a, .text b => a == b
  | .number a, .number b => a == b
  | _, _ => false

-- The parameter in a place; places are counted from one.
def param? (params : List Param) : Nat → Option Param
  | 0 => none
  | place + 1 => params[place]?

def Condition.Meets (params : List Param) (record : Record) : Condition → Bool
  | .equals column place =>
    match param? params place with
    | some p => (record column).equals p
    | none => false
  | .equalsIfGiven column place =>
    match param? params place with
    | some .null => true
    | some p => (record column).equals p
    | none => false

def meetsAll (params : List Param) (conditions : List Condition) (record : Record) : Bool :=
  conditions.all (Condition.Meets params record)

def Record.set (record : Record) (column : String) (value : Value) : Record :=
  fun name => if name = column then value else record name

def Setting.value (moment : Int) : Setting → Value
  | .null => .null
  | .now => .instant moment

def Tables.replace (tables : Tables) (table : String) (rows : List Record) : Tables :=
  fun name => if name = table then rows else tables name

-- What a change makes of the tables at this moment.
def Change.act (moment : Int) (params : List Param) (tables : Tables) : Change → Tables
  | .delete table conditions =>
    tables.replace table ((tables table).filter fun record => !meetsAll params conditions record)
  | .update table settings conditions =>
    tables.replace table ((tables table).map fun record =>
      if meetsAll params conditions record then
        settings.foldl (fun r setting => r.set setting.1 (setting.2.value moment)) record
      else record)

-- The tables as they are kept, and what an open transaction has made of them so far.
structure Session where
  kept : Tables
  draft : Option Tables

namespace Session

-- The tables as the statements of this session see them.
def seen (s : Session) : Tables :=
  s.draft.getD s.kept

def obey (moment : Int) (params : List Param) (s : Session) : Command → Session
  | .start => ⟨s.kept, some s.kept⟩
  | .commit => ⟨s.seen, none⟩
  | .rollback => ⟨s.kept, none⟩
  | .change c =>
    match s.draft with
    | some draft => ⟨s.kept, some (c.act moment params draft)⟩
    | none => ⟨c.act moment params s.kept, none⟩

-- Takes a statement, which does nothing if the database is set to fail it.
def take (db : Database) (moment : Int) (s : Session) (q : Statement) : Session :=
  match db.failure? q, q.command? with
  | none, some command => s.obey moment q.params command
  | _, _ => s

end Session

theorem Session.seen_draft (kept draft : Tables) : Session.seen ⟨kept, some draft⟩ = draft := rfl

theorem Session.seen_kept (kept : Tables) : Session.seen ⟨kept, none⟩ = kept := rfl

theorem Session.obey_commit (moment : Int) (params : List Param) (s : Session) :
    s.obey moment params .commit = ⟨s.seen, none⟩ := rfl

-- The session in which these tables have been told the statements.
def run (db : Database) (moment : Int) (tables : Tables) (statements : List Statement) : Session :=
  statements.foldl (Session.take db moment) ⟨tables, none⟩

-- What the statement makes of the tables if it is a change.
def effect (moment : Int) (tables : Tables) (q : Statement) : Tables :=
  match q.command? with
  | some (.change c) => c.act moment q.params tables
  | _ => tables

def IsChange (q : Statement) : Prop :=
  ∃ c, q.command? = some (.change c)

section

variable {db : Database} {moment : Int}

theorem take_of_fails (s : Session) {q : Statement} (h : db.Fails q) : s.take db moment q = s := by
  obtain ⟨message, hmessage⟩ := Option.isSome_iff_exists.mp h
  rw [Session.take, hmessage]

theorem take_of_command? (s : Session) {q : Statement} {command : Command} (hpass : ¬db.Fails q)
    (h : q.command? = some command) :
    s.take db moment q = s.obey moment q.params command := by
  have hnone : db.failure? q = none := Option.not_isSome_iff_eq_none.mp hpass
  rw [Session.take, hnone, h]

theorem take_of_isChange (kept draft : Tables) {q : Statement} (hpass : ¬db.Fails q)
    (h : IsChange q) :
    Session.take db moment ⟨kept, some draft⟩ q = ⟨kept, some (effect moment draft q)⟩ := by
  obtain ⟨c, hc⟩ := h
  rw [take_of_command? _ hpass hc, effect, hc]
  rfl

theorem run_append (tables : Tables) (front back : List Statement) :
    run db moment tables (front ++ back) =
      back.foldl (Session.take db moment) (run db moment tables front) :=
  List.foldl_append

theorem run_concat (tables : Tables) (front : List Statement) (q : Statement) :
    run db moment tables (front ++ [q]) = (run db moment tables front).take db moment q := by
  rw [run_append]
  rfl

-- The changes of a transaction that was begun go into its draft one after the other.
theorem run_of_changes (tables : Tables) {changes : List Statement}
    (hbegin : ¬db.Fails beginStatement) (h : ∀ q ∈ changes, ¬db.Fails q ∧ IsChange q) :
    run db moment tables (beginStatement :: changes) =
      ⟨tables, some (changes.foldl (effect moment) tables)⟩ := by
  have hstart : Session.take db moment ⟨tables, none⟩ beginStatement = ⟨tables, some tables⟩ := by
    rw [take_of_command? _ hbegin command?_begin]
    rfl
  have hfold : ∀ draft, changes.foldl (Session.take db moment) ⟨tables, some draft⟩ =
      ⟨tables, some (changes.foldl (effect moment) draft)⟩ := by
    induction changes with
    | nil => exact fun _ => rfl
    | cons q rest ih =>
      intro draft
      obtain ⟨⟨hpass, hchange⟩, hrest⟩ := List.forall_mem_cons.mp h
      rw [List.foldl_cons, take_of_isChange _ _ hpass hchange, ih hrest]
      rfl
  rw [run, List.foldl_cons, hstart, hfold]

end

end Unshare.Database
