import LayeredSite.Site.Post

namespace LayeredSite

def Post.hasTags (p : Post) (filter : List String) : Bool := filter.all p.options.hasTag

/-- The tags of all posts, as often as posts have them. -/
def Site.tagNames (posts : List Post) : List String := posts.flatMap fun p => p.options.tags

namespace Tags

def count (counts : Fields Nat) (name : String) : Fields Nat :=
  Fields.insert name ((Fields.get? counts name).getD 0 + 1) counts

def countAll (names : List String) : Fields Nat := names.foldl count []

end Tags

structure Site where
  config : SiteConfig
  posts : List Post
  tags : Fields Nat
  /-- How many posts could not be loaded. -/
  failed : Nat

namespace Site

variable [Toolkit]

/-- The posts with every tag of a filter, the newest first. -/
def postsWith (s : Site) (filter : List String) : List Post := s.posts.filter (·.hasTags filter)

def tagEntry (s : Site) (name : String) (count : Nat) : Value :=
  .record [("name", .str name), ("count", .int (Int64.ofNat count)),
    ("url", .str (Url.ofTag s.config.build.tagUrl name))]

end Site
end LayeredSite
