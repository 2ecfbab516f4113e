namespace QuestAcademy

inductive Halt
  | cancelled
  | deadlineExceeded
  deriving DecidableEq

def Halt.message : Halt → String
  | cancelled => "Operation cancelled"
  | deadlineExceeded => "Deadline exceeded"

/-- A permit; `expired` tells that its deadline has passed. -/
structure Permit where
  revoked : Bool
  expired : Bool
  deriving DecidableEq

namespace Permit

def unlimited : Permit := ⟨false, false⟩

def revoke (permit : Permit) : Permit := { permit with revoked := true }

/-- Whether work may go on. A permit both revoked and expired counts as revoked. -/
def check (permit : Permit) : Except Halt Unit :=
  if permit.revoked then .error .cancelled
  else if permit.expired then .error .deadlineExceeded
  else .ok ()

end Permit

/-- Permits by number. Copies of a permit share one flag: to revoke one is to revoke them all. -/
structure PermitOffice where
  flags : List Bool
  issued : List (Nat × Bool)

namespace PermitOffice

def empty : PermitOffice := ⟨[], []⟩

def issue (office : PermitOffice) (expired : Bool) : PermitOffice :=
  { flags := office.flags ++ [false], issued := office.issued ++ [(office.flags.length, expired)] }

def copy (office : PermitOffice) (number : Nat) : PermitOffice :=
  match office.issued[number]? with
  | some permit => { office with issued := office.issued ++ [permit] }
  | none => office

def permit? (office : PermitOffice) (number : Nat) : Option Permit := do
  let (flag, expired) ← office.issued[number]?
  return { revoked := ← office.flags[flag]?, expired }

def revoke (office : PermitOffice) (number : Nat) : PermitOffice :=
  match office.issued[number]? with
  | some (flag, _) => { office with flags := office.flags.set flag true }
  | none => office

end PermitOffice

end QuestAcademy
