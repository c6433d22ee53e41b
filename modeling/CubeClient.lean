import CubeClient.Client.Basic
import CubeClient.Cookie.Jar
import CubeClient.Cookie.SetCookie
import CubeClient.Deferred.Config
import CubeClient.Deferred.Program
import CubeClient.Deferred.Rows
import CubeClient.Deferred.Schedule
import CubeClient.Envelope.Request
import CubeClient.Envelope.Response
import CubeClient.Envelope.Vocabulary
import CubeClient.Error
import CubeClient.Field
import CubeClient.Metadata.Code
import CubeClient.Metadata.Collection
import CubeClient.Metadata.Context
import CubeClient.Metadata.Member
import CubeClient.Metadata.Object
import CubeClient.Metadata.Row
import CubeClient.NamedList
import CubeClient.Number.Binary
import CubeClient.Number.Decimal
import CubeClient.Number.Integer
import CubeClient.OlapType
import CubeClient.Proofs.Deferred.Transition
import CubeClient.Request.Catalogue
import CubeClient.Request.Message
import CubeClient.Request.Pairs
import CubeClient.Session.Basic
import CubeClient.Session.CustomList
import CubeClient.Session.Walk
import CubeClient.Settings.Basic
import CubeClient.Settings.ConnectString
import CubeClient.Settings.Environment
import CubeClient.Settings.File
import CubeClient.Statement
import CubeClient.Text.Alphanumeric
import CubeClient.Text.Ascii
import CubeClient.Text.Base64
import CubeClient.Text.Blank
import CubeClient.Text.CodePoints
import CubeClient.Text.Combining
import CubeClient.Text.Composition
import CubeClient.Text.Cut
import CubeClient.Text.Direction
import CubeClient.Text.Joining
import CubeClient.Text.Quoted
import CubeClient.Text.Split
import CubeClient.Text.Utf8
import CubeClient.Time.Calendar
import CubeClient.Time.Reading
import CubeClient.Toml.Document
import CubeClient.Toml.Scalar
import CubeClient.Toml.Table
import CubeClient.Toml.Text
import CubeClient.Toml.Value
import CubeClient.Transport.Canned
import CubeClient.Transport.Http
import CubeClient.Transport.Scripted
import CubeClient.Transport.Server
import CubeClient.Url.Address
import CubeClient.Url.Basic
import CubeClient.Url.Host
import CubeClient.Url.HostName
import CubeClient.Url.NameMapping
import CubeClient.Url.Percent
import CubeClient.Url.Punycode
import CubeClient.Xml.Attributes
import CubeClient.Xml.Document
import CubeClient.Xml.Element
import CubeClient.Xml.Event
import CubeClient.Xml.Fragment
import CubeClient.Xml.Markup
import CubeClient.Xml.Name
import CubeClient.Xml.Outline
import CubeClient.Xml.Reference
import CubeClient.Xml.Tree
import CubeClient.Proofs.Deferred.Ancestry
import CubeClient.Proofs.Deferred.Guard
import CubeClient.Proofs.Deferred.Coherent
import CubeClient.Proofs.Deferred.Population
import CubeClient.Proofs.Deferred.Footprint
import CubeClient.Proofs.Deferred.Waiting
import CubeClient.Proofs.Deferred.Answers
import CubeClient.Proofs.Deferred.Requests
import CubeClient.Proofs.Deferred.Accounts
import CubeClient.Proofs.Deferred.Discover
import CubeClient.Proofs.Text.Utf8
import CubeClient.Proofs.Xml.Spelling
import CubeClient.Proofs.Xml.Scanning
import CubeClient.Proofs.Xml.Tags
import CubeClient.Proofs.Xml.Reading
import CubeClient.Proofs.Deferred.Replies
import CubeClient.Proofs.Envelope.Classification
import CubeClient.Proofs.Xml.Fragments
import CubeClient.Proofs.Envelope.Vocabulary
import CubeClient.Proofs.Xml.Places
import CubeClient.Proofs.Envelope.Requests
import CubeClient.Proofs.Envelope.Responses
import CubeClient.Proofs.Client.Faults
import CubeClient.Proofs.Client.Spellings
import CubeClient.Proofs.Text.Splitting
import CubeClient.Proofs.Cookie.History
import CubeClient.Proofs.Url.Address
import CubeClient.Proofs.Url.HostName
import CubeClient.Proofs.Cookie.Isolation
import CubeClient.Proofs.Deferred.Solo
import CubeClient.Proofs.Deferred.Terms
import CubeClient.Proofs.Failure
import CubeClient.Proofs.Metadata.Growth
import CubeClient.Proofs.Metadata.Paths
import CubeClient.Proofs.Metadata.Restrictions
import CubeClient.Proofs.Metadata.Rows
import CubeClient.Proofs.Metadata.Scoping
import CubeClient.Proofs.Metadata.Sources
import CubeClient.Proofs.Cookie.Reading
import CubeClient.Proofs.Deferred.Reentrancy
import CubeClient.Proofs.Deferred.Traces
import CubeClient.Proofs.Number.Integers
import CubeClient.Proofs.Settings.ConnectStrings
import CubeClient.Proofs.Transport.SessionCookies
import CubeClient.Proofs.Deferred.Afterwards
import CubeClient.Proofs.Deferred.Rest
import CubeClient.Proofs.Metadata.DerivedHierarchies
import CubeClient.Proofs.Lists.Gathering
import CubeClient.Proofs.Deferred.Filling
import CubeClient.Proofs.Metadata.Populations
import CubeClient.Proofs.Metadata.Referring
import CubeClient.Proofs.Metadata.GroupDimensions
import CubeClient.Proofs.Deferred.CarriedOut
import CubeClient.Proofs.Metadata.Serving
import CubeClient.Proofs.Metadata.GroupHierarchies
import CubeClient.Proofs.Xml.Nesting
import CubeClient.Proofs.Settings.References
import CubeClient.Proofs.Xml.CharacterData
import CubeClient.Proofs.Settings.Padding
import CubeClient.Proofs.Number.Widths
import CubeClient.Proofs.Metadata.NumberFields
import CubeClient.Proofs.Cookie.Pairs
import CubeClient.Proofs.Cookie.Written
import CubeClient.Proofs.Time.Calendar
import CubeClient.Proofs.Time.HeaderDates
import CubeClient.Proofs.Request.Validation
import CubeClient.Proofs.Client.Validation
import CubeClient.Proofs.Lists.Insertions
import CubeClient.Proofs.Statement.Values
import CubeClient.Proofs.Transport.CannedAnswers
import CubeClient.Proofs.Text.Truncation
import CubeClient.Proofs.Transport.ErrorBodies
