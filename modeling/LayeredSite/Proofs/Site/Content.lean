import LayeredSite.Program
import LayeredSite.Proofs.Evaluation.Lookups
import LayeredSite.Proofs.Markup.Escaping
import LayeredSite.Proofs.Markup.Shown
import LayeredSite.Proofs.Site.Loading

namespace LayeredSite

variable {disk : Disk} {today : Date} {layouts : Source} {settings : Post.Settings}
  {path : String} {cells loaded now after : Cells} {post : Post} {doc : Document} {site v : Value}

namespace Post

/-- The markup of a body without any layout, the options of its document being merged into the
site: the tree of its values, transformed and written without a format. -/
def BodyMarkup (pipeline : Pipeline) (layer : Layer) (site : Value) (cells : Cells)
    (html : String) : Prop :=
  ∃ tree rendered tree' transformed written,
    layer.body.render (mergeSite site layer.options.toFields) [] cells =
      some (.ok tree, rendered) ∧
    pipeline.transform tree rendered = some (tree', transformed) ∧
    Markup.serialize none tree' transformed = some (.ok html, written)

/-- A text that shows markup and is not markup itself. -/
structure Inert (text html : String) : Prop where
  /-- Nothing in it begins or ends a tag or a quoted value. -/
  plain : ∀ c ∈ text.toList, c ≠ '<' ∧ c ≠ '>' ∧ c ≠ '"'
  decoded : Text.unescape text = html
  /-- Around it alone, a node of a page is a start tag, this text and an end tag. -/
  embedded : ∀ {format page tag attrs out s t},
    Markup.Shown s (.node tag attrs [.raw text]) page →
    Markup.serialize format page s = some (.ok out, t) →
    ∃ name as u u' before behind, Markup.opening tag attrs u = some (.ok (name, as), u') ∧
      out = before ++ (Markup.Event.start name as).write (format == some .xhtml) ++ text ++
        (Markup.Event.stop name).write (format == some .xhtml) ++ behind

theorem inert_escape (html : String) : Inert (Text.escape html) html where
  plain c hc := by
    rw [Text.toList_escape] at hc
    exact Text.mem_escapeChars hc
  decoded := by
    rw [Text.unescape, Text.toList_escape, Text.unescapeChars_escapeChars, String.ofList_toList]
  embedded := Markup.exists_of_shown

/-- The content of the post: a text that shows the markup of its body for a site of base, date and
address only. -/
def IsContent (settings : Settings) (layer : Layer) (post : Post) (cells : Cells) (v : Value) :
    Prop :=
  ∃ html text, BodyMarkup settings.pipeline layer
    (contentSite settings.base post.date post.url) cells html ∧ v = .raw text ∧ Inert text html

theorem bodyMarkup_of_contentMarkup {pipeline : Pipeline} {html : String}
    (hlayers : doc.layers = [])
    (h : contentMarkup pipeline doc site cells = some (.ok html, after)) :
    BodyMarkup pipeline ⟨doc.options, doc.body⟩ site cells html := by
  obtain ⟨tree, rendered, hrender, hrest⟩ := Rendering.bind_eq_ok_iff.mp h
  obtain ⟨tree', transformed, htransform, hserialize⟩ := Rendering.bind_eq_ok_iff.mp hrest
  obtain ⟨inner, between, hinner, hwrap⟩ := Rendering.bind_eq_ok_iff.mp hrender
  rw [hlayers] at hwrap
  obtain ⟨rfl, rfl⟩ := Rendering.pure_eq_ok_iff.mp hwrap
  exact ⟨_, _, tree', transformed, after, hinner, Rendering.lift_eq_ok_iff.mp htransform,
    hserialize⟩

theorem exists_of_contentOutcome {pipeline : Pipeline} (hlayers : doc.layers = [])
    (h : contentOutcome pipeline doc site cells = .ok v) :
    ∃ html text, BodyMarkup pipeline ⟨doc.options, doc.body⟩ site cells html ∧ v = .raw text ∧
      Inert text html := by
  unfold contentOutcome Rendering.settle at h
  cases hrun : contentMarkup pipeline doc site cells with
  | none =>
    rw [hrun] at h
    cases h
  | some r =>
    obtain ⟨r, last⟩ := r
    rw [hrun] at h
    cases r with
    | error e => cases h
    | ok html =>
      cases h
      exact ⟨html, _, bodyMarkup_of_contentMarkup hlayers hrun, rfl, inert_escape html⟩

theorem compile_alone_eq_ok {raw : String}
    (h : Document.compile layouts path raw false = .ok doc) :
    ∃ layer, Layer.compile path raw = .ok layer ∧ doc = ⟨layer.options, layer.body, []⟩ := by
  unfold Document.compile at h
  cases hlayer : Layer.compile path raw with
  | error e =>
    rw [hlayer] at h
    cases h
  | ok layer =>
    rw [hlayer] at h
    simp only [bind, Except.bind] at h
    cases hlayout : layer.options.layout <;> rw [hlayout] at h <;> cases h <;>
      exact ⟨layer, rfl, rfl⟩

theorem exists_layer_of_load [Toolkit]
    (h : load disk today layouts settings path cells = .ok (post, loaded)) :
    ∃ raw layer, disk.readTemplate path = .ok raw ∧ Layer.compile path raw = .ok layer ∧
      ofDocument disk today settings path cells ⟨layer.options, layer.body, []⟩ =
        (post, loaded) := by
  rw [load_eq] at h
  cases hdoc : document disk layouts path with
  | error e =>
    rw [hdoc] at h
    cases h
  | ok doc =>
    rw [hdoc] at h
    unfold document at hdoc
    cases hraw : disk.readTemplate path with
    | error e =>
      rw [hraw] at hdoc
      cases hdoc
    | ok raw =>
      rw [hraw] at hdoc
      simp only [bind, Except.bind] at hdoc
      obtain ⟨layer, hlayer, rfl⟩ := compile_alone_eq_ok hdoc
      exact ⟨raw, layer, rfl, hlayer, Except.ok.inj h⟩

theorem fixed_ofDocument [Toolkit] (doc : Document)
    (h : ofDocument disk today settings path cells doc = (post, loaded)) :
    loaded.Fixed post.content (contentOutcome settings.pipeline doc
      (contentSite settings.base post.date post.url) cells) := by
  cases h
  refine .inl ?_
  rw [Cells.state?, List.getElem?_concat_length]
  rfl

theorem entry_content [Toolkit] (post : Post) (tagUrl : String) :
    (post.toValue tagUrl).entry (.keyword "content") = .deferred post.content := by
  simp [toValue, Value.record, Value.entry, Fields.ofList, Fields.merge, Fields.get?_insert_self]

theorem field_content [Toolkit] (post : Post) (tagUrl : String) :
    (post.toValue tagUrl).field (.keyword "content") = force post.content := by
  funext s
  obtain ⟨n, hn⟩ := s.exists_depth
  have hkind : (post.toValue tagUrl).kind ≠ .deferred := by simp [toValue, Value.record, Value.kind]
  rw [Value.field, Reading.get_bind, hn, Value.fieldWithin_of_kind hkind, entry_content]
  rfl

/-- A page that calls `:content` reads the cell of the post. -/
theorem eval_content_eq_ok_iff [Toolkit] {p q : Position} {f : Form} {scope scope' scope'' : Scope}
    {tagUrl : String} {between : Cells}
    (hf : eval f scope now = some ((.ok (post.toValue tagUrl), scope'), between)) :
    eval (.call p [.literal q (.keyword "content"), f]) scope now =
        some ((.ok v, scope''), after) ↔
      force post.content between = some (.ok v, after) ∧ scope'' = scope' := by
  rw [eval_keyword, Eval.bind_of_ok hf, field_content, Eval.reported, Eval.bind_run,
    Eval.reading_run]
  rcases force post.content between with _ | ⟨e | w, last⟩
  · simp
  · have hfail : (Eval.fail p (.failed e) : Eval Value) scope' last =
        some ((.error ⟨p, .failed e⟩, scope'), last) := rfl
    simp [hfail]
  · have hpure : (pure w : Eval Value) scope' last = some ((.ok w, scope'), last) := rfl
    simp only [Option.map_some, Option.bind_some, hpure, Option.some.injEq, Prod.mk.injEq,
      Except.ok.injEq]
    constructor
    · rintro ⟨⟨rfl, rfl⟩, rfl⟩
      exact ⟨⟨rfl, rfl⟩, rfl⟩
    · rintro ⟨⟨rfl, rfl⟩, rfl⟩
      exact ⟨⟨rfl, rfl⟩, rfl⟩

/-- The content of a post that is loaded is text: unescaped once it is the markup of the body alone,
for a site of base, date and address only. Whenever a page reads it, it is that text, and a node
around it is written as its start tag, the text and its end tag. -/
theorem content_inert [Toolkit]
    (hload : load disk today layouts settings path cells = .ok (post, loaded)) :
    ∃ raw layer, disk.readTemplate path = .ok raw ∧ Layer.compile path raw = .ok layer ∧
      post.options = layer.options ∧ ∀ now, loaded.Since now →
        (∀ v after, force post.content now = some (.ok v, after) →
          IsContent settings layer post cells v) ∧
        ∀ p q f scope scope' scope'' tagUrl v between after,
          eval f scope now = some ((.ok (post.toValue tagUrl), scope'), between) →
          eval (.call p [.literal q (.keyword "content"), f]) scope now =
            some ((.ok v, scope''), after) → IsContent settings layer post cells v := by
  obtain ⟨raw, layer, hraw, hlayer, hpost⟩ := exists_layer_of_load hload
  have hoptions : post.options = layer.options := by
    cases hpost
    rfl
  have hcontent : ∀ now, loaded.Since now → ∀ v after,
      force post.content now = some (.ok v, after) → IsContent settings layer post cells v := by
    intro now hnow v after hforce
    have hfixed := hnow.keeps _ _ (fixed_ofDocument _ hpost)
    exact exists_of_contentOutcome rfl (hfixed.of_force hforce).symm
  refine ⟨raw, layer, hraw, hlayer, hoptions, fun now hnow => ⟨hcontent now hnow, ?_⟩⟩
  intro p q f scope scope' scope'' tagUrl v between after hf hcall
  exact hcontent between (hnow.tail (.evaluate hf)) v after ((eval_content_eq_ok_iff hf).mp hcall).1

def quoting : Disk :=
  ⟨.dir [("2024-03-01-hello.sx",
    .file ";title:Hello\n[:p (:title site) (raw \" <b>\") \" & \" (:title (:base site))]" 0)], []⟩

def quoted : String := "&lt;p&gt;Hello &lt;b&gt; &amp;amp; Site&lt;/p&gt;"

def plainly : Settings := ⟨"/\x7bslug\x7d.html", .record [("title", .str "Site")], []⟩

/-- A page reads the content of this post under a name. -/
theorem hello_inert : ∃ post loaded after,
    load quoting Date.epoch (.ofList []) plainly "2024-03-01-hello.sx" [] = .ok (post, loaded) ∧
    eval (.call ⟨1, 1⟩ [.literal ⟨1, 2⟩ (.keyword "content"), .symbol ⟨1, 11⟩ "post"])
        [("post", post.toValue "/tags")] loaded =
      some ((.ok (.raw quoted), [("post", post.toValue "/tags")]), after) ∧
    Inert quoted "<p>Hello <b> &amp; Site</p>" := by
  have hrun : ((load quoting Date.epoch (.ofList []) plainly "2024-03-01-hello.sx"
      []).toOption.bind fun p => (force p.1.content p.2).bind fun r => r.1.toOption.bind
        Value.string?) = some quoted := by decide +kernel
  cases hload : load quoting Date.epoch (.ofList []) plainly "2024-03-01-hello.sx" [] with
  | error e =>
    rw [hload] at hrun
    cases hrun
  | ok p =>
    obtain ⟨post, loaded⟩ := p
    rw [hload] at hrun
    change (force post.content loaded).bind _ = _ at hrun
    obtain ⟨⟨o, after⟩, hforce, hvalue⟩ := Option.bind_eq_some_iff.mp hrun
    obtain ⟨_, _, -, -, -, hnow⟩ := content_inert hload
    cases o with
    | error e => cases hvalue
    | ok v =>
      have hpost : eval (.symbol ⟨1, 11⟩ "post") [("post", post.toValue "/tags")] loaded =
          some ((.ok (post.toValue "/tags"), [("post", post.toValue "/tags")]), loaded) := rfl
      have hcall := (eval_content_eq_ok_iff (p := ⟨1, 1⟩) (q := ⟨1, 2⟩) hpost).mpr
        ⟨hforce, rfl⟩
      obtain ⟨html, text, -, rfl, hinert⟩ := (hnow loaded .refl).2 _ _ _ _ _ _ _ _ _ _ hpost hcall
      obtain rfl := Option.some.inj hvalue
      obtain rfl : html = "<p>Hello <b> &amp; Site</p>" :=
        hinert.decoded.symm.trans (by decide +kernel)
      exact ⟨post, loaded, after, rfl, hcall, hinert⟩

end Post
end LayeredSite
