import NatGateway.Description.Fields

/-!
# Devices

A description is a tree of devices, each with its services. Devices are visited before the devices
they contain, and services in the order in which their device declares them.
-/

namespace NatGateway.Description

open NatGateway.Xml (Element Node)

/-- An icon of a device. -/
structure Icon where
  mimetype : String
  width : Int
  height : Int
  depth : Int
  url : Reference
deriving DecidableEq

/-- A service of a device. -/
structure Service where
  type : String
  id : String
  scpd : Reference
  control : Reference
  event : Reference
deriving DecidableEq

/-- What a device says of itself, the devices inside it apart. -/
structure Details where
  deviceType : String
  friendlyName : String
  manufacturer : String
  manufacturerUrl : Reference
  modelDescription : String
  modelName : String
  modelNumber : String
  modelType : String
  modelUrl : Reference
  serialNumber : String
  udn : String
  upc : String
  icons : List Icon
  services : List Service
  presentationUrl : Reference
deriving DecidableEq

/-- A device with the devices inside it. -/
inductive Device where
  | node (details : Details) (devices : List Device)

/-- What a service is called in messages. -/
def Service.shown (service : Service) : String :=
  "Service ID " ++ service.id ++ " : " ++ service.type

/-- What a device is called in messages. -/
def Details.shown (details : Details) : String :=
  "Device ID " ++ details.udn ++ " : " ++ details.deviceType ++
    " (" ++ details.friendlyName ++ ")"

/-- Read an icon. -/
def Icon.ofElement (element : Element) : Except DescriptionError Icon :=
  (numberOf element "width").bind fun width =>
    (numberOf element "height").bind fun height =>
      (numberOf element "depth").map fun depth =>
        ⟨element.textOf "mimetype", width, height, depth, referenceOf element "url"⟩

/-- Read a service. -/
def Service.ofElement (element : Element) : Service where
  type := element.textOf "serviceType"
  id := element.textOf "serviceId"
  scpd := referenceOf element "SCPDURL"
  control := referenceOf element "controlURL"
  event := referenceOf element "eventSubURL"

/-- Read what a device says of itself. -/
def Details.ofElement (element : Element) : Except DescriptionError Details :=
  ((itemsOf element "iconList" "icon").mapM Icon.ofElement).map fun icons =>
    { deviceType := element.textOf "deviceType"
      friendlyName := element.textOf "friendlyName"
      manufacturer := element.textOf "manufacturer"
      manufacturerUrl := referenceOf element "manufacturerURL"
      modelDescription := element.textOf "modelDescription"
      modelName := element.textOf "modelName"
      modelNumber := element.textOf "modelNumber"
      modelType := element.textOf "modelType"
      modelUrl := referenceOf element "modelURL"
      serialNumber := element.textOf "serialNumber"
      udn := element.textOf "UDN"
      upc := element.textOf "UPC"
      icons := icons
      services := (itemsOf element "serviceList" "service").map Service.ofElement
      presentationUrl := referenceOf element "presentationURL" }

mutual

/-- Read the devices inside a device from its children: those of the first list of devices. -/
def devicesInside : List Node → Except DescriptionError (List Device)
  | [] => .ok []
  | .element tag children :: rest =>
      if tag.name = "deviceList" then devicesListed children else devicesInside rest
  | _ :: rest => devicesInside rest
termination_by nodes => sizeOf nodes
decreasing_by
  all_goals simp only [List.cons.sizeOf_spec, Node.element.sizeOf_spec]
  all_goals omega

/-- Read the devices among the children of a list. -/
def devicesListed : List Node → Except DescriptionError (List Device)
  | [] => .ok []
  | .element tag children :: rest =>
      if tag.name = "device" then
        (Details.ofElement ⟨tag, children⟩).bind fun details =>
          (devicesInside children).bind fun devices =>
            (devicesListed rest).map fun others => .node details devices :: others
      else devicesListed rest
  | _ :: rest => devicesListed rest
termination_by nodes => sizeOf nodes
decreasing_by
  all_goals simp only [List.cons.sizeOf_spec, Node.element.sizeOf_spec]
  all_goals omega

end

namespace Device

/-- What a device says of itself. -/
def details : Device → Details
  | .node details _ => details

/-- The devices inside a device. -/
def devices : Device → List Device
  | .node _ devices => devices

/-- Read a device with all devices inside it. -/
def ofElement (element : Element) : Except DescriptionError Device :=
  (Details.ofElement element).bind fun details =>
    (devicesInside element.children).map fun devices => .node details devices

mutual

/-- A device and all devices inside it, each before those it contains. -/
def visited : Device → List Details
  | .node details devices => details :: visitedAll devices

/-- The devices of a list, each followed by those inside it. -/
def visitedAll : List Device → List Details
  | [] => []
  | device :: rest => visited device ++ visitedAll rest

end

/-- All services with the device that declares them. -/
def declaredServices (device : Device) : List (Details × Service) :=
  device.visited.flatMap fun details => details.services.map (details, ·)

/-- All services. -/
def services (device : Device) : List Service := device.declaredServices.map (·.2)

/-- The services of a type. -/
def findServices (device : Device) (type : String) : List Service :=
  device.services.filter (·.type == type)

end Device

/-- Resolve the reference of an icon anew. -/
def Icon.rebase (base : Url) (icon : Icon) : Icon := { icon with url := icon.url.rebase base }

/-- Resolve the references of a service anew. -/
def Service.rebase (base : Url) (service : Service) : Service :=
  { service with
    scpd := service.scpd.rebase base
    control := service.control.rebase base
    event := service.event.rebase base }

/-- Resolve the references of a device anew, those of the devices inside it apart. -/
def Details.rebase (base : Url) (details : Details) : Details :=
  { details with
    manufacturerUrl := details.manufacturerUrl.rebase base
    modelUrl := details.modelUrl.rebase base
    presentationUrl := details.presentationUrl.rebase base
    icons := details.icons.map (·.rebase base)
    services := details.services.map (·.rebase base) }

namespace Device

mutual

/-- Resolve all references of a device anew. -/
def rebase (base : Url) : Device → Device
  | .node details devices => .node (details.rebase base) (rebaseAll base devices)

/-- Resolve all references of a list of devices anew. -/
def rebaseAll (base : Url) : List Device → List Device
  | [] => []
  | device :: rest => rebase base device :: rebaseAll base rest

end

end Device

end NatGateway.Description
