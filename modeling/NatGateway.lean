import NatGateway.Configuration.Defaults
import NatGateway.Configuration.Document
import NatGateway.Configuration.Error
import NatGateway.Configuration.Reading
import NatGateway.Configuration.Store
import NatGateway.Configuration.System
import NatGateway.Description.Device
import NatGateway.Description.Error
import NatGateway.Description.Fields
import NatGateway.Description.Reference
import NatGateway.Description.Root
import NatGateway.Description.Scpd
import NatGateway.Floating.Binary64
import NatGateway.Floating.Shortest
import NatGateway.Http.Exchange
import NatGateway.Mapping.Client
import NatGateway.Mapping.Collect
import NatGateway.Mapping.Discovery
import NatGateway.Mapping.Error
import NatGateway.Mapping.Facade
import NatGateway.Mapping.Preferences
import NatGateway.Mapping.Protocol
import NatGateway.Mapping.Settings
import NatGateway.Net.Ipv4
import NatGateway.Net.Ipv6
import NatGateway.Proofs.Text.Utf8
import NatGateway.Proofs.Xml.Names
import NatGateway.Proofs.Xml.Values
import NatGateway.Soap.Action
import NatGateway.Soap.Answer
import NatGateway.Soap.Client
import NatGateway.Soap.Envelope
import NatGateway.Soap.Error
import NatGateway.Soap.Fault
import NatGateway.Soap.HashedMap
import NatGateway.Soap.Schema
import NatGateway.Soap.Value
import NatGateway.Ssdp.Error
import NatGateway.Ssdp.Request
import NatGateway.Ssdp.Response
import NatGateway.Ssdp.Search
import NatGateway.Ssdp.Socket
import NatGateway.Text.Ascii
import NatGateway.Text.Blank
import NatGateway.Text.CombiningClass
import NatGateway.Text.Composition
import NatGateway.Text.Direction
import NatGateway.Text.Hidden
import NatGateway.Text.Integer
import NatGateway.Text.Joining
import NatGateway.Text.Letter
import NatGateway.Text.LowerCase
import NatGateway.Text.Mark
import NatGateway.Text.Quoted
import NatGateway.Text.Ranges
import NatGateway.Text.Utf8
import NatGateway.Url.Basic
import NatGateway.Url.Domain
import NatGateway.Url.DomainMapping
import NatGateway.Url.Host
import NatGateway.Url.PercentEncoding
import NatGateway.Url.Punycode
import NatGateway.Url.Reader
import NatGateway.Wan.Connection
import NatGateway.Wan.Messages
import NatGateway.Wan.Operations
import NatGateway.Xml.Char
import NatGateway.Xml.Content
import NatGateway.Xml.Doctype
import NatGateway.Xml.Document
import NatGateway.Xml.Encoding
import NatGateway.Xml.Input
import NatGateway.Xml.Markup
import NatGateway.Xml.Namespace
import NatGateway.Xml.Node
import NatGateway.Xml.Writer
import NatGateway.Yaml.Block
import NatGateway.Yaml.Cursor
import NatGateway.Yaml.Document
import NatGateway.Yaml.Node
import NatGateway.Yaml.Plain
import NatGateway.Yaml.Quoted
import NatGateway.Yaml.Resolution
import NatGateway.Yaml.Tag
import NatGateway.Yaml.Token
import NatGateway.Yaml.Value
import NatGateway.Yaml.Writer
import NatGateway.Proofs.Xml.Tags
import NatGateway.Proofs.Xml.Texts
import NatGateway.Proofs.Xml.Head
import NatGateway.Proofs.Soap.Envelope
import NatGateway.Proofs.Soap.Action
import NatGateway.Proofs.Soap.RoundTrip
import NatGateway.Proofs.Http.Exchange
import NatGateway.Proofs.Soap.Client
import NatGateway.Proofs.Mapping.Client
import NatGateway.Proofs.Mapping.Refusal
import NatGateway.Proofs.Text.Decimal
import NatGateway.Proofs.Soap.Schema
import NatGateway.Proofs.Mapping.Protocol
import NatGateway.Proofs.Mapping.Request
import NatGateway.Proofs.Description.Device
import NatGateway.Proofs.Mapping.Collect
import NatGateway.Proofs.Description.Failures
import NatGateway.Proofs.Mapping.Strategy
import NatGateway.Proofs.Mapping.Discovery
import NatGateway.Proofs.Xml.Trees
import NatGateway.Proofs.Description.Root
import NatGateway.Proofs.Ssdp.Search
import NatGateway.Proofs.Url.Text
import NatGateway.Proofs.Wan.Calls
import NatGateway.Proofs.Net.Ipv6
import NatGateway.Proofs.Url.Encoding
import NatGateway.Proofs.Url.Host
import NatGateway.Proofs.Url.Reader
import NatGateway.Proofs.Ssdp.Delivery
import NatGateway.Proofs.Text.LowerCase
import NatGateway.Proofs.Yaml.Value
import NatGateway.Proofs.Configuration.Document
import NatGateway.Proofs.Configuration.Layers
import NatGateway.Proofs.Configuration.Updates
import NatGateway.Proofs.Configuration.Loading
import NatGateway.Proofs.Configuration.Reloading
import NatGateway.Proofs.Configuration.Find
import NatGateway.Proofs.Configuration.Inheritance
import NatGateway.Proofs.Configuration.Persistence
import NatGateway.Proofs.Configuration.Reordering
import NatGateway.Proofs.Configuration.Variables
import NatGateway.Proofs.Yaml.Document
import NatGateway.Proofs.Configuration.Reachable
import NatGateway.Proofs.Configuration.Setters
import NatGateway.Proofs.Configuration.Accesses
import NatGateway.Proofs.Mapping.Preferences
import NatGateway.Proofs.First
import NatGateway.Proofs.Soap.Arguments
import NatGateway.Proofs.Xml.Unmarked
import NatGateway.Proofs.Soap.Faults
import NatGateway.Proofs.Soap.Records
import NatGateway.Proofs.Mapping.Attempts
import NatGateway.Proofs.Listing
import NatGateway.Proofs.Xml.Children
import NatGateway.Proofs.Description.Elements
import NatGateway.Proofs.Text.Integer
import NatGateway.Proofs.Description.Acceptance
import NatGateway.Proofs.Description.Walks
import NatGateway.Proofs.Text.Blank
import NatGateway.Proofs.Url.Web
import NatGateway.Proofs.Description.Reference
import NatGateway.Proofs.Ssdp.Header
import NatGateway.Proofs.Ssdp.Status
import NatGateway.Proofs.Soap.WrittenFaults
import NatGateway.Proofs.Ssdp.Socket
import NatGateway.Proofs.Yaml.Equality
import NatGateway.Proofs.Configuration.Merging
import NatGateway.Proofs.Configuration.Effects
import NatGateway.Proofs.Mapping.FailedWrites
import NatGateway.Proofs.Configuration.Lowering
import NatGateway.Proofs.Soap.Comments
import NatGateway.Proofs.Description.Comments
import NatGateway.Proofs.Description.Scpd
import NatGateway.Mapping.ExactSettings
import NatGateway.Proofs.Mapping.Duration
import NatGateway.Proofs.Mapping.NormalForm
import NatGateway.Proofs.Mapping.Usable
import NatGateway.Proofs.Soap.Integers
import NatGateway.Proofs.Soap.Views
import NatGateway.Proofs.Mapping.Causes
import NatGateway.Proofs.Mapping.Key
import NatGateway.Proofs.Soap.ActionNames
import NatGateway.Proofs.Xml.Attributes
import NatGateway.Proofs.Soap.EncodingStyle
import NatGateway.Proofs.Net.Subnet
