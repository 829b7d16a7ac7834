/-
  Sift.TextField — the fields of the full-text index.
-/

namespace Sift

inductive TextField where
  | content
  | subject
  | sender
  | recipient
  | cc
  | envFrom
  | envTo
  | msgId
  | filename
  | author
  | title
  | keywords
  | company
  | metadata
  | contact
  | attachments
  | type
  | objects
  | structured
  deriving DecidableEq, Repr

namespace TextField

def all : List TextField :=
  [content, subject, sender, recipient, cc, envFrom, envTo, msgId, filename, author, title,
    keywords, company, metadata, contact, attachments, type, objects, structured]

/-- The name that a search writes before the colon. -/
def searchName : TextField → String
  | content => "content"
  | subject => "subject"
  | sender => "from"
  | recipient => "to"
  | cc => "cc"
  | envFrom => "envfrom"
  | envTo => "envto"
  | msgId => "msgid"
  | filename => "filename"
  | author => "author"
  | title => "title"
  | keywords => "keywords"
  | company => "company"
  | metadata => "metadata"
  | contact => "contact"
  | attachments => "attachment"
  | type => "type"
  | objects => "has"
  | structured => "field"

/-- The name of the field itself; two fields are searched under another name. -/
def name : TextField → String
  | attachments => "attachments"
  | objects => "objects"
  | f => f.searchName

def ofName (name : String) : Option TextField := all.find? (·.name == name)

def isAddress : TextField → Bool
  | sender | recipient | cc | envFrom | envTo => true
  | _ => false

end TextField

end Sift
