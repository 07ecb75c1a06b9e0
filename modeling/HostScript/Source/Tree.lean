import HostScript.Source.Token

/-! # Programs

Expressions and statements as the grammar builds them. Every node carries the
position of the token it is named after. Statements that only ask the host for
something are gathered in `HostRequest`, since they hold expressions but no
statements. -/

namespace HostScript

/-- A constant of the language; collections have no constants. -/
inductive Literal where
  | undefined
  | null
  | bool (b : Bool)
  | number (x : Float)
  | text (s : String)
  deriving DecidableEq

/-- Binary operators. -/
inductive BinaryOp where
  | add | sub | mul | div | rem
  | eq | ne | lt | le | gt | ge
  | both | either
  deriving DecidableEq, Repr

/-- The spelling of a binary operator. -/
def BinaryOp.text : BinaryOp → String
  | .add => "+" | .sub => "-" | .mul => "*" | .div => "/" | .rem => "%"
  | .eq => "==" | .ne => "!=" | .lt => "<" | .le => "<=" | .gt => ">" | .ge => ">="
  | .both => "&&" | .either => "||"

/-- Unary operators. -/
inductive UnaryOp where
  | neg | not
  deriving DecidableEq, Repr

/-- The spelling of a unary operator. -/
def UnaryOp.text : UnaryOp → String
  | .neg => "-" | .not => "!"

/-- Expressions. -/
inductive Expr where
  | lit (loc : Location) (value : Literal)
  | var (loc : Location) (name : String)
  | binary (loc : Location) (op : BinaryOp) (left right : Expr)
  | unary (loc : Location) (op : UnaryOp) (operand : Expr)
  | call (loc : Location) (name : String) (args : List Expr)
  | array (loc : Location) (items : List Expr)
  | object (loc : Location) (entries : List (String × Expr))
  | member (loc : Location) (base : Expr) (key : String)
  | index (loc : Location) (base position : Expr)
  | group (loc : Location) (inner : Expr)
  | template (loc : Location) (parts : List TemplatePart)

/-- The position of an expression. -/
def Expr.loc : Expr → Location
  | .lit l _ | .var l _ | .binary l _ _ _ | .unary l _ _ | .call l _ _ | .array l _
  | .object l _ | .member l _ _ | .index l _ _ | .group l _ | .template l _ => l

/-- How `set` combines the old value with the new one. -/
inductive AssignOp where
  | set | add | sub | mul | div
  deriving DecidableEq, Repr

namespace AssignOp

/-- The spelling of an assignment operator. -/
def text : AssignOp → String
  | .set => "=" | .add => "+=" | .sub => "-=" | .mul => "*=" | .div => "/="

/-- The operator that a compound assignment applies. -/
def operator? : AssignOp → Option BinaryOp
  | .set => none
  | .add => some .add
  | .sub => some .sub
  | .mul => some .mul
  | .div => some .div

end AssignOp

/-- What a `set` writes to. -/
inductive Target where
  | var (name : String)
  | member (base : Expr) (key : String)
  | index (base position : Expr)

/-- The expression that reads a target. -/
def Target.toExpr (loc : Location) : Target → Expr
  | .var name => .var loc name
  | .member base key => .member loc base key
  | .index base position => .index loc base position

/-- What a window statement asks for. -/
inductive WindowAction where
  | focus | minimize | maximize
  deriving DecidableEq, Repr

/-- The host command of a window action. -/
def WindowAction.command : WindowAction → String
  | .focus => "focus_window"
  | .minimize => "minimize_window"
  | .maximize => "maximize_window"

/-- Statements that ask the host for something. -/
inductive HostRequest where
  | emit (event : Expr) (payload : Option Expr)
  | launch (app : Expr) (options : Option Expr)
  | close (window : Option Expr)
  | wait (duration : Expr)
  | window (action : WindowAction) (window : Expr)
  | write (content path : Expr)
  | read (path : Expr) (var : String)
  | mkdir (path : Expr)
  | delete (path : Expr) (recursive : Bool)
  | alert (message : Expr)
  | confirm (message : Expr) (var : Option String)
  | prompt (message : Expr) (default : Option Expr) (var : Option String)
  | notify (message : Expr) (title : Option Expr)
  | play (source : Expr)
  | stop
  | video (source : Expr)
  | command (name : Expr) (args : List Expr)

/-- Statements. -/
inductive Stmt where
  | block (loc : Location) (body : List Stmt)
  | set (loc : Location) (target : Target) (op : AssignOp) (value : Expr)
  /-- Declare a name in the current scope. -/
  | declare (loc : Location) (name : String) (value : Expr)
  | print (loc : Location) (value : Expr)
  | cond (loc : Location) (test : Expr) (thenBody : List Stmt) (elseBody : Option (List Stmt))
  /-- Run the body a given number of times. -/
  | loop (loc : Location) (count : Expr) (body : List Stmt)
  | while (loc : Location) (test : Expr) (body : List Stmt)
  | foreach (loc : Location) (var : String) (items : Expr) (body : List Stmt)
  | break (loc : Location)
  | continue (loc : Location)
  | return (loc : Location) (value : Option Expr)
  | define (loc : Location) (name : String) (params : List String) (body : List Stmt)
  | expr (loc : Location) (value : Expr)
  | attempt (loc : Location) (body : List Stmt) (var : String) (handler : List Stmt)
  /-- Register a handler for an event. -/
  | on (loc : Location) (event : Expr) (body : List Stmt)
  | host (loc : Location) (request : HostRequest)

/-- The position of a statement. -/
def Stmt.loc : Stmt → Location
  | .block l _ | .set l _ _ _ | .declare l _ _ | .print l _ | .cond l _ _ _ | .loop l _ _
  | .while l _ _ | .foreach l _ _ _ | .break l | .continue l | .return l _ | .define l _ _ _
  | .expr l _ | .attempt l _ _ _ | .on l _ _ | .host l _ => l

/-- A program is a sequence of statements. -/
abbrev Program := List Stmt

end HostScript
