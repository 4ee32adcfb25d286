import Vitae.Layout.Columns

/-! The classes that markup may carry. A fragment and its stylesheet are both written in terms of
them, so that neither can name a class the other does not know. -/

namespace Vitae

/-- A side column of the content grid. -/
inductive Side where
  | left
  | right
  deriving DecidableEq, Repr

def Side.name : Side → String
  | left => "left"
  | right => "right"

inductive Class where
  | resume
  | header
  | headerVariant (style : HeaderStyle)
  | avatar
  | avatarInitials
  | identity
  | name
  | title
  | contact
  | contactItem
  | summary
  | content
  | grid
  | gridSingle
  | column
  | columnSide (side : Side)
  | fullWidth
  | section
  | sectionVariant (kind : SectionKind)
  | sectionTitle
  | skills
  | skillsVariant (style : SkillsStyle)
  | skill
  | skillVariant (style : SkillsStyle)
  | skillLabel
  | skillTrack
  | skillFill
  | experienceList
  | experienceListVariant (style : ExperienceStyle)
  | experience
  | experienceVariant (style : ExperienceStyle)
  | experienceMarker
  | experienceHeader
  | jobTitle
  | company
  | duration
  | jobLocation
  | responsibilities
  | responsibility
  | educationList
  | educationListVariant (style : EducationStyle)
  | education
  | educationVariant (style : EducationStyle)
  | degree
  | institution
  | year
  deriving DecidableEq, Repr

/-- One skill in a list of that style. -/
def SkillsStyle.itemName : SkillsStyle → String
  | .chips => "chip"
  | .list => "list-item"
  | .grid => "grid-item"
  | .bars => "bar"

namespace Class

def all : List Class :=
  [resume, header] ++ HeaderStyle.all.map headerVariant ++
    [avatar, avatarInitials, identity, name, title, contact, contactItem, summary, content, grid,
      gridSingle, column, columnSide .left, columnSide .right, fullWidth, .section] ++
    SectionKind.all.map sectionVariant ++
    [sectionTitle, skills] ++ SkillsStyle.all.map skillsVariant ++
    [skill] ++ SkillsStyle.all.map skillVariant ++
    [skillLabel, skillTrack, skillFill, experienceList] ++
    ExperienceStyle.all.map experienceListVariant ++
    [experience] ++ ExperienceStyle.all.map experienceVariant ++
    [experienceMarker, experienceHeader, jobTitle, company, duration, jobLocation,
      responsibilities, responsibility, educationList] ++
    EducationStyle.all.map educationListVariant ++
    [education] ++ EducationStyle.all.map educationVariant ++ [degree, institution, year]

theorem mem_all (c : Class) : c ∈ all := by
  cases c with
  | headerVariant style => cases style <;> decide
  | columnSide side => cases side <;> decide
  | sectionVariant kind => cases kind <;> decide
  | skillsVariant style => cases style <;> decide
  | skillVariant style => cases style <;> decide
  | experienceListVariant style => cases style <;> decide
  | experienceVariant style => cases style <;> decide
  | educationListVariant style => cases style <;> decide
  | educationVariant style => cases style <;> decide
  | _ => decide

/-- The name without a prefix. -/
def baseName : Class → String
  | resume => "resume"
  | header => "header"
  | headerVariant style => "header--" ++ style.name
  | avatar => "avatar"
  | avatarInitials => "avatar--initials"
  | identity => "header__identity"
  | name => "header__name"
  | title => "header__title"
  | contact => "header__contact"
  | contactItem => "header__contact-item"
  | summary => "summary"
  | content => "content"
  | grid => "grid"
  | gridSingle => "grid--single"
  | column => "column"
  | columnSide side => "column--" ++ side.name
  | fullWidth => "full-width"
  | .section => "section"
  | sectionVariant kind => "section--" ++ kind.name
  | sectionTitle => "section__title"
  | skills => "skills"
  | skillsVariant style => "skills--" ++ style.name
  | skill => "skill"
  | skillVariant style => "skill--" ++ style.itemName
  | skillLabel => "skill__label"
  | skillTrack => "skill__track"
  | skillFill => "skill__fill"
  | experienceList => "experience-list"
  | experienceListVariant style => "experience-list--" ++ style.name
  | experience => "experience"
  | experienceVariant style => "experience--" ++ style.name
  | experienceMarker => "experience__marker"
  | experienceHeader => "experience__header"
  | jobTitle => "experience__title"
  | company => "experience__company"
  | duration => "experience__duration"
  | jobLocation => "experience__location"
  | responsibilities => "experience__responsibilities"
  | responsibility => "experience__responsibility"
  | educationList => "education-list"
  | educationListVariant style => "education-list--" ++ style.name
  | education => "education"
  | educationVariant style => "education--" ++ style.name
  | degree => "education__degree"
  | institution => "education__institution"
  | year => "education__year"

/-- The name as it stands in a page. -/
def token (classPrefix : String) (c : Class) : String := classPrefix ++ c.baseName

/-- `cs` where `b` holds, and nothing elsewhere. -/
def onlyIf (b : Bool) (cs : List Class) : List Class := if b then cs else []

/-- Every class that a fragment of the layout may carry, in the order of the stylesheet. -/
def vocabulary (layout : Layout) : List Class :=
  let plan := layout.sections.columns
  let skillsStyle := layout.sections.skills.style
  let experienceStyle := layout.sections.experience.style
  let educationStyle := layout.sections.education.style
  [resume, header, headerVariant layout.header.style] ++
    onlyIf layout.header.showAvatar [avatar, avatarInitials] ++
    [identity, name] ++
    onlyIf layout.header.showTitle [title] ++
    [contact, contactItem, summary, content] ++
    onlyIf plan.hasGrid ([grid] ++
      onlyIf (!plan.isTwoColumn) [gridSingle] ++
      [column] ++
      onlyIf (!plan.left.isEmpty) [columnSide .left] ++
      onlyIf (!plan.right.isEmpty) [columnSide .right]) ++
    onlyIf (!plan.fullWidth.isEmpty) [fullWidth] ++
    [.section] ++ SectionKind.all.map sectionVariant ++ [sectionTitle] ++
    [skills, skillsVariant skillsStyle, skill, skillVariant skillsStyle] ++
    onlyIf (skillsStyle = .bars) [skillLabel, skillTrack, skillFill] ++
    [experienceList, experienceListVariant experienceStyle, experience,
      experienceVariant experienceStyle] ++
    onlyIf (experienceStyle = .timeline) [experienceMarker] ++
    [experienceHeader, jobTitle, company, duration] ++
    onlyIf (experienceStyle = .detailed) [jobLocation] ++
    [responsibilities, responsibility] ++
    [educationList, educationListVariant educationStyle, education,
      educationVariant educationStyle, degree, institution, year]

end Class

end Vitae
