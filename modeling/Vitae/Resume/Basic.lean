import Vitae.Text.Blank
import Vitae.Text.Uppercase

/-! What a résumé says, and the few things a page shows that it does not say outright. -/

namespace Vitae

structure Skill where
  name : String := ""
  level : Option UInt8 := none
  deriving DecidableEq, Repr, Inhabited

structure Job where
  title : String := ""
  company : String := ""
  startDate : Option String := none
  endDate : Option String := none
  location : Option String := none
  responsibilities : List String := []
  deriving DecidableEq, Repr, Inhabited

structure Education where
  degree : String := ""
  institution : String := ""
  year : Option String := none
  deriving DecidableEq, Repr, Inhabited

structure Resume where
  primaryName : String := ""
  title : Option String := none
  email : Option String := none
  phone : Option String := none
  location : Option String := none
  website : Option String := none
  avatar : Option String := none
  summary : Option String := none
  skills : List Skill := []
  jobs : List Job := []
  educations : List Education := []
  deriving DecidableEq, Repr, Inhabited

/-- A skill without a level is shown at 75, and none above 100. -/
def Skill.shownLevel (skill : Skill) : Nat := min 100 (skill.level.getD 75).toNat

/-- A job without an end goes on. -/
def Job.duration (job : Job) : Option String :=
  (Text.nonBlank job.startDate).map fun start =>
    start ++ " – " ++ (Text.nonBlank job.endDate).getD "Present"

namespace Resume

def contactItems (r : Resume) : List String :=
  [r.email, r.phone, r.location, r.website].filterMap Text.nonBlank

/-- Upper case may make more than two characters of the two initials. -/
def initials (r : Resume) : String :=
  String.ofList (((Text.wordStarts false r.primaryName.toList).take 2).flatMap Text.uppercase)

end Resume

end Vitae
