import Vitae.Resume.Basic
import Vitae.Shape.Basic

/-! The shape of a résumé. Every field may be left out, at every level, and fields that mean nothing
here are passed over. -/

namespace Vitae

def Skill.shape : Shape Skill :=
  .record "Skill" false
    (.cons (.defaulting "name" "") .text <|
      .cons (.defaulting "level" none) (.optional .byte) .nil)
    (fun (name, level, ()) => { name, level })
    (fun s => (s.name, s.level, ()))

def Job.shape : Shape Job :=
  .record "WorkExperience" false
    (.cons (.defaulting "title" "") .text <|
      .cons (.defaulting "company" "") .text <|
      .cons (.defaulting "startDate" none) (.optional .text) <|
      .cons (.defaulting "endDate" none) (.optional .text) <|
      .cons (.defaulting "location" none) (.optional .text) <|
      .cons (.defaulting "responsibilities" []) (.list .text) .nil)
    (fun (title, company, startDate, endDate, location, responsibilities, ()) =>
      { title, company, startDate, endDate, location, responsibilities })
    (fun j => (j.title, j.company, j.startDate, j.endDate, j.location, j.responsibilities, ()))

def Education.shape : Shape Education :=
  .record "Education" false
    (.cons (.defaulting "degree" "") .text <|
      .cons (.defaulting "institution" "") .text <|
      .cons (.defaulting "year" none) (.optional .text) .nil)
    (fun (degree, institution, year, ()) => { degree, institution, year })
    (fun e => (e.degree, e.institution, e.year, ()))

def Resume.shape : Shape Resume :=
  .record "ResumeData" false
    (.cons (.defaulting "primaryName" "") .text <|
      .cons (.defaulting "title" none) (.optional .text) <|
      .cons (.defaulting "email" none) (.optional .text) <|
      .cons (.defaulting "phone" none) (.optional .text) <|
      .cons (.defaulting "location" none) (.optional .text) <|
      .cons (.defaulting "website" none) (.optional .text) <|
      .cons (.defaulting "avatar" none) (.optional .text) <|
      .cons (.defaulting "summary" none) (.optional .text) <|
      .cons (.defaulting "skills" []) (.list Skill.shape) <|
      .cons (.defaulting "workExperiences" []) (.list Job.shape) <|
      .cons (.defaulting "educations" []) (.list Education.shape) .nil)
    (fun (primaryName, title, email, phone, location, website, avatar, summary, skills, jobs,
        educations, ()) =>
      { primaryName, title, email, phone, location, website, avatar, summary, skills, jobs,
        educations })
    (fun r => (r.primaryName, r.title, r.email, r.phone, r.location, r.website, r.avatar,
      r.summary, r.skills, r.jobs, r.educations, ()))

end Vitae
