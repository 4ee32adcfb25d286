import Vitae.Markup.Node
import Vitae.Resume.Basic
import Vitae.Template.Basic

/-! The part of a page that shows a résumé. Its columns come from the template alone; the résumé only
decides what there is to show in them. -/

namespace Vitae.Fragment

open Node (text element)

/-- An element that holds one text. -/
def labelled (tag : Tag) (c : Class) (s : String) : Node := element tag [c] [] [text s]

/-- The same for a field that may be blank, in which case there is none. -/
def labelled? (tag : Tag) (c : Class) (field : Option String) : List Node :=
  (Text.nonBlank field).toList.map (labelled tag c)

def avatar (r : Resume) : Node :=
  match Text.nonBlank r.avatar with
  | some source => element .img [.avatar] [("src", source), ("alt", r.primaryName)] []
  | none => element .div [.avatar, .avatarInitials] [("aria-hidden", "true")] [text r.initials]

def contact (r : Resume) : List Node :=
  let items := r.contactItems
  if items.isEmpty then []
  else [element .div [.contact] [] (items.map (labelled .span .contactItem))]

/-- The name and what stands under it. -/
def identity (layout : HeaderLayout) (r : Resume) (below : List Node) : Node :=
  element .div [.identity] []
    (labelled .h1 .name r.primaryName ::
      ((if layout.showTitle then labelled? .p .title r.title else []) ++ below))

/-- Contact details stand beside the identity in a split header, and under it in any other. -/
def header (layout : HeaderLayout) (r : Resume) : Node :=
  element .header [.header, .headerVariant layout.style] []
    ((if layout.showAvatar then [avatar r] else []) ++
      if layout.style = .split then identity layout r [] :: contact r
      else [identity layout r (contact r)])

def skillItem (style : SkillsStyle) (skill : Skill) : Node :=
  let classes := [.skill, .skillVariant style]
  match style with
  | .bars =>
    let level := toString skill.shownLevel
    element .div classes [("data-level", level)]
      [labelled .span .skillLabel skill.name,
        element .div [.skillTrack] []
          [element .div [.skillFill] [("style", "width: " ++ level ++ "%")] []]]
  | .chips => element .span classes [] [text skill.name]
  | .list => element .li classes [] [text skill.name]
  | .grid => element .div classes [] [text skill.name]

def skills (style : SkillsStyle) (items : List Skill) : Node :=
  element (if style = .list then .ul else .div) [.skills, .skillsVariant style] []
    (items.map (skillItem style))

def jobHeader (style : ExperienceStyle) (job : Job) : Node :=
  element .div [.experienceHeader] []
    ([labelled .h3 .jobTitle job.title, labelled .span .company job.company] ++
      job.duration.toList.map (labelled .span .duration) ++
      if style = .detailed then labelled? .span .jobLocation job.location else [])

def responsibilities (job : Job) : List Node :=
  let items := job.responsibilities.filter (!Text.isBlank ·)
  if items.isEmpty then []
  else [element .ul [.responsibilities] [] (items.map (labelled .li .responsibility))]

def jobItem (style : ExperienceStyle) (job : Job) : Node :=
  element .article [.experience, .experienceVariant style] []
    ((if style = .timeline then [element .span [.experienceMarker] [("aria-hidden", "true")] []]
      else []) ++
      jobHeader style job :: responsibilities job)

def experience (style : ExperienceStyle) (jobs : List Job) : Node :=
  element .div [.experienceList, .experienceListVariant style] [] (jobs.map (jobItem style))

def educationItem (style : EducationStyle) (entry : Education) : Node :=
  element (if style = .list then .li else .div) [.education, .educationVariant style] []
    (labelled (if style = .list then .span else .h3) .degree entry.degree ::
      labelled .span .institution entry.institution :: labelled? .span .year entry.year)

def education (style : EducationStyle) (entries : List Education) : Node :=
  element (if style = .list then .ul else .div) [.educationList, .educationListVariant style] []
    (entries.map (educationItem style))

/-- What a section shows, if the résumé has anything for it. -/
def sectionBody? (sections : SectionsLayout) (r : Resume) : SectionKind → Option Node
  | .skills =>
    if r.skills.isEmpty then none else some (skills sections.skills.style r.skills)
  | .experience =>
    if r.jobs.isEmpty then none else some (experience sections.experience.style r.jobs)
  | .education =>
    if r.educations.isEmpty then none
    else some (education sections.education.style r.educations)

def section? (sections : SectionsLayout) (r : Resume) (kind : SectionKind) : Option Node :=
  (sectionBody? sections r kind).map fun body =>
    element .section [.section, .sectionVariant kind] []
      [labelled .h2 .sectionTitle kind.heading, body]

def sectionsOf (sections : SectionsLayout) (r : Resume) (kinds : List SectionKind) : List Node :=
  kinds.filterMap (section? sections r)

/-- A side column, if any section claims it. -/
def column (sections : SectionsLayout) (r : Resume) (side : Side) (kinds : List SectionKind) :
    List Node :=
  if kinds.isEmpty then []
  else [element .div [.column, .columnSide side] [] (sectionsOf sections r kinds)]

def grid (sections : SectionsLayout) (r : Resume) : List Node :=
  let plan := sections.columns
  if plan.hasGrid then
    [element .div ([.grid] ++ Class.onlyIf (!plan.isTwoColumn) [.gridSingle]) []
      (column sections r .left plan.left ++ column sections r .right plan.right)]
  else []

def fullWidth (sections : SectionsLayout) (r : Resume) : List Node :=
  let kinds := sections.columns.fullWidth
  if kinds.isEmpty then [] else [element .div [.fullWidth] [] (sectionsOf sections r kinds)]

def content (sections : SectionsLayout) (r : Resume) : Node :=
  element .main [.content] [] (grid sections r ++ fullWidth sections r)

end Fragment

/-- The fragment for a résumé in a layout. -/
def Layout.fragment (layout : Layout) (r : Resume) : Node :=
  .element .div [.resume] []
    (Fragment.header layout.header r ::
      (Fragment.labelled? .p .summary r.summary ++ [Fragment.content layout.sections r]))

end Vitae
